import ReductionIR.OperatorSet.Signature
/-
Operators that work element by element, and their signatures.
-/
namespace ReductionIR.OperatorSet

open Arity AttributeRule

def elementwise : List Operator := [
  ⟨"Abs", [since 1 [need] [need] [ints "consumed_inputs"], since 6 [need] [need] []]⟩,
  ⟨"Ceil", [since 1 [need] [need] [ints "consumed_inputs"], since 6 [need] [need] []]⟩,
  ⟨"Exp", [since 1 [need] [need] [ints "consumed_inputs"], since 6 [need] [need] []]⟩,
  ⟨"Floor", [since 1 [need] [need] [ints "consumed_inputs"], since 6 [need] [need] []]⟩,
  ⟨"Log", [since 1 [need] [need] [ints "consumed_inputs"], since 6 [need] [need] []]⟩,
  ⟨"Neg", [since 1 [need] [need] [ints "consumed_inputs"], since 6 [need] [need] []]⟩,
  ⟨"Reciprocal", [since 1 [need] [need] [ints "consumed_inputs"], since 6 [need] [need] []]⟩,
  ⟨"Relu", [since 1 [need] [need] [ints "consumed_inputs"], since 6 [need] [need] []]⟩,
  ⟨"Sigmoid", [since 1 [need] [need] [ints "consumed_inputs"], since 6 [need] [need] []]⟩,
  ⟨"Sqrt", [since 1 [need] [need] [ints "consumed_inputs"], since 6 [need] [need] []]⟩,
  ⟨"Tanh", [since 1 [need] [need] [ints "consumed_inputs"], since 6 [need] [need] []]⟩,
  ⟨"Identity", [since 1 [need] [need] []]⟩,
  ⟨"Not", [since 1 [need] [need] []]⟩,
  ⟨"Softplus", [since 1 [need] [need] []]⟩,
  ⟨"Softsign", [since 1 [need] [need] []]⟩,
  ⟨"Acos", [since 7 [need] [need] []]⟩,
  ⟨"Asin", [since 7 [need] [need] []]⟩,
  ⟨"Atan", [since 7 [need] [need] []]⟩,
  ⟨"Cos", [since 7 [need] [need] []]⟩,
  ⟨"Sin", [since 7 [need] [need] []]⟩,
  ⟨"Tan", [since 7 [need] [need] []]⟩,
  ⟨"Acosh", [since 9 [need] [need] []]⟩,
  ⟨"Asinh", [since 9 [need] [need] []]⟩,
  ⟨"Atanh", [since 9 [need] [need] []]⟩,
  ⟨"Cosh", [since 9 [need] [need] []]⟩,
  ⟨"Erf", [since 9 [need] [need] []]⟩,
  ⟨"IsNaN", [since 9 [need] [need] []]⟩,
  ⟨"Sign", [since 9 [need] [need] []]⟩,
  ⟨"Sinh", [since 9 [need] [need] []]⟩,
  ⟨"IsInf", [since 10 [need] [need] [int "detect_negative", int "detect_positive"]]⟩,
  ⟨"Round", [since 11 [need] [need] []]⟩,
  ⟨"HardSwish", [since 14 [need] [need] []]⟩,
  ⟨"BitwiseNot", [since 18 [need] [need] []]⟩,
  ⟨"Mish", [since 18 [need] [need] []]⟩,
  ⟨"Gelu", [since 20 [need] [need] [text "approximate"]]⟩,
  ⟨"Swish", [since 24 [need] [need] [float "alpha"]]⟩,
  ⟨"Elu", [since 1 [need] [need] [float "alpha", ints "consumed_inputs"],
    since 6 [need] [need] [float "alpha"]]⟩,
  ⟨"LeakyRelu", [since 1 [need] [need] [float "alpha", ints "consumed_inputs"],
    since 6 [need] [need] [float "alpha"]]⟩,
  ⟨"Selu", [since 1 [need] [need] [float "alpha", ints "consumed_inputs", float "gamma"],
    since 6 [need] [need] [float "alpha", float "gamma"]]⟩,
  ⟨"HardSigmoid", [since 1 [need] [need] [float "alpha", float "beta", ints "consumed_inputs"],
    since 6 [need] [need] [float "alpha", float "beta"]]⟩,
  ⟨"ThresholdedRelu", [since 10 [need] [need] [float "alpha"]]⟩,
  ⟨"Celu", [since 12 [need] [need] [float "alpha"]]⟩,
  ⟨"Shrink", [since 9 [need] [need] [float "bias", float "lambd"]]⟩,
  ⟨"Hardmax", [since 1 [need] [need] [int "axis"]]⟩,
  ⟨"Softmax", [since 1 [need] [need] [int "axis"]]⟩,
  ⟨"LogSoftmax", [since 1 [need] [need] [int "axis"]]⟩,
  ⟨"Clip", [since 1 [need] [need] [ints "consumed_inputs", float "max", float "min"],
    since 6 [need] [need] [float "max", float "min"], since 11 [need, may, may] [need] []]⟩,
  ⟨"Cast", [since 1 [need] [need] [must (text "to")], since 6 [need] [need] [must (int "to")],
    since 19 [need] [need] [int "saturate", must (int "to")],
    since 24 [need] [need] [text "round_mode", int "saturate", must (int "to")]]⟩,
  ⟨"CastLike", [since 15 [need, need] [need] [], since 19 [need, need] [need] [int "saturate"],
    since 24 [need, need] [need] [text "round_mode", int "saturate"]]⟩,
  ⟨"BitCast", [since 26 [need] [need] [must (int "to")]]⟩,
  ⟨"Add", [since 1 [need, need] [need] [int "axis", int "broadcast", ints "consumed_inputs"],
    since 6 [need, need] [need] [int "axis", int "broadcast"], since 7 [need, need] [need] []]⟩,
  ⟨"Sub", [since 1 [need, need] [need] [int "axis", int "broadcast", ints "consumed_inputs"],
    since 6 [need, need] [need] [int "axis", int "broadcast"], since 7 [need, need] [need] []]⟩,
  ⟨"Mul", [since 1 [need, need] [need] [int "axis", int "broadcast", ints "consumed_inputs"],
    since 6 [need, need] [need] [int "axis", int "broadcast"], since 7 [need, need] [need] []]⟩,
  ⟨"Div", [since 1 [need, need] [need] [int "axis", int "broadcast", ints "consumed_inputs"],
    since 6 [need, need] [need] [int "axis", int "broadcast"], since 7 [need, need] [need] []]⟩,
  ⟨"And", [since 1 [need, need] [need] [int "axis", int "broadcast"],
    since 7 [need, need] [need] []]⟩,
  ⟨"Or", [since 1 [need, need] [need] [int "axis", int "broadcast"],
    since 7 [need, need] [need] []]⟩,
  ⟨"Xor", [since 1 [need, need] [need] [int "axis", int "broadcast"],
    since 7 [need, need] [need] []]⟩,
  ⟨"Equal", [since 1 [need, need] [need] [int "axis", int "broadcast"],
    since 7 [need, need] [need] []]⟩,
  ⟨"Greater", [since 1 [need, need] [need] [int "axis", int "broadcast"],
    since 7 [need, need] [need] []]⟩,
  ⟨"Less", [since 1 [need, need] [need] [int "axis", int "broadcast"],
    since 7 [need, need] [need] []]⟩,
  ⟨"Pow", [since 1 [need, need] [need] [int "axis", int "broadcast"],
    since 7 [need, need] [need] []]⟩,
  ⟨"GreaterOrEqual", [since 12 [need, need] [need] []]⟩,
  ⟨"LessOrEqual", [since 12 [need, need] [need] []]⟩,
  ⟨"Mod", [since 10 [need, need] [need] [int "fmod"]]⟩,
  ⟨"BitShift", [since 11 [need, need] [need] [must (text "direction")]]⟩,
  ⟨"BitwiseAnd", [since 18 [need, need] [need] []]⟩,
  ⟨"BitwiseOr", [since 18 [need, need] [need] []]⟩,
  ⟨"BitwiseXor", [since 18 [need, need] [need] []]⟩,
  ⟨"PRelu", [since 1 [need, need] [need] [ints "consumed_inputs"],
    since 6 [need, need] [need] []]⟩,
  ⟨"Where", [since 9 [need, need, need] [need] []]⟩,
  ⟨"Max", [since 1 [many 1] [need] [ints "consumed_inputs"], since 6 [many 1] [need] []]⟩,
  ⟨"Min", [since 1 [many 1] [need] [ints "consumed_inputs"], since 6 [many 1] [need] []]⟩,
  ⟨"Sum", [since 1 [many 1] [need] [ints "consumed_inputs"], since 6 [many 1] [need] []]⟩,
  ⟨"Mean", [since 1 [many 1] [need] [ints "consumed_inputs"], since 6 [many 1] [need] []]⟩]

end ReductionIR.OperatorSet
