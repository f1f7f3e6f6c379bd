import ReductionIR.OperatorSet.Arrangement
import ReductionIR.OperatorSet.Control
import ReductionIR.OperatorSet.Elementwise
import ReductionIR.OperatorSet.Layers
import ReductionIR.OperatorSet.Learned
import ReductionIR.Reduction
/-
What a node of a known operator must look like at an opset.
-/
namespace ReductionIR.OperatorSet

open Arity AttributeRule

/-- A reduction has an attribute for its axes, and from some opset on an operand. -/
def ofReduction (r : Reduction) : Operator :=
  ⟨r.operator, [since 1 [need] [need] [ints "axes", int "keepdims"],
    since r.operandSince [need, may] [need] [int "keepdims", int "noop_with_empty_axes"]]⟩

def standard : List Operator :=
  Reduction.all.map ofReduction ++ elementwise ++ arrangement ++ layers ++ control

def learnedDomain : String := "ai.onnx.ml"

/-- Domains that are known, and have no node but of the operators listed for them. -/
def knownDomains : List (String × List Operator) :=
  [("", standard), ("ai.onnx", []), (learnedDomain, learned), ("ai.onnx.training", [])]

/-- Domains of which some operators are known, but that may have others. -/
def openDomains : List (String × List Operator) := [("ai.onnx.preview.training", training)]

/-- Operators without a definition that are let through. -/
def experimental : List String :=
  ["ATen", "Affine", "ConstantFill", "Crop", "DynamicSlice", "GRUUnit", "GivenTensorFill",
    "ImageScaler", "ParametricSoftplus", "Scale", "ScaledTanh"]

def isExperimental (node : Model.Node) : Bool :=
  ["", "ai.onnx"].contains node.domain && experimental.contains node.opType

def otherKinds : List (String × DataKind) :=
  [("TENSOR", .tensor), ("SPARSE_TENSOR", .sparse), ("GRAPH", .graph), ("TYPE_PROTO", .type)]

def DataKind.ofData : Model.AttributeData → DataKind
  | .int _ => int
  | .float _ => float
  | .text _ => text
  | .ints _ => ints
  | .floats _ => floats
  | .texts _ => texts
  | .other kind => (otherKinds.lookup kind).getD other

/-- An attribute is one of those named, of its kind and with data; a name with two leading
    underscores is free. -/
def attributeFits (rules : List AttributeRule) (a : Model.Attribute) : Bool :=
  match rules.find? (·.name == a.name) with
  | some rule => DataKind.ofData a.data = rule.kind && (rule.kind.isList || a.isGiven)
  | none => a.name.startsWith "__"

def Signature.fits (signature : Signature) (node : Model.Node) : Bool :=
  placesFit node.inputs signature.inputs && placesFit node.outputs signature.outputs &&
    signature.resultCounts.all (·.contains node.outputs.length) &&
    decide (node.attributes.map Model.Attribute.name).Nodup &&
    node.attributes.all (attributeFits signature.attributes) &&
    (signature.attributes.all fun rule =>
      !rule.required || node.attributes.any (·.name == rule.name))

def signature? (operators : List Operator) (opset : Int) (node : Model.Node) :
    Option Signature :=
  (operators.find? (·.name == node.opType)).bind (·.at? opset)

/-- Does a node fit its operator at an opset? Operators that nothing is known of fit, but not in
    a domain whose operators are all known. -/
def fits (opset : Int) (node : Model.Node) : Bool :=
  match knownDomains.lookup node.domain with
  | some operators => (signature? operators opset node).any (·.fits node)
  | none =>
    (signature? ((openDomains.lookup node.domain).getD []) opset node).all (·.fits node)

end ReductionIR.OperatorSet
