import ReductionIR.OperatorSet.Signature
/-
Operators that make, pick, order and reshape elements, and their signatures.
-/
namespace ReductionIR.OperatorSet

open Arity AttributeRule

def arrangement : List Operator := [
  ⟨"ArgMax", [since 1 [need] [need] [int "axis", int "keepdims"],
    since 12 [need] [need] [int "axis", int "keepdims", int "select_last_index"]]⟩,
  ⟨"ArgMin", [since 1 [need] [need] [int "axis", int "keepdims"],
    since 12 [need] [need] [int "axis", int "keepdims", int "select_last_index"]]⟩,
  ⟨"CenterCropPad", [since 18 [need, need] [need] [ints "axes"]]⟩,
  ⟨"Compress", [since 9 [need, need] [need] [int "axis"]]⟩,
  ⟨"Concat", [since 1 [many 1] [need] [int "axis"], since 4 [many 1] [need] [must (int "axis")]]⟩,
  ⟨"Constant", [since 1 [] [need] [must (tensor "value")],
    since 11 [] [need] [sparse "sparse_value", tensor "value"],
    since 12 [] [need] [sparse "sparse_value", tensor "value", float "value_float",
      floats "value_floats", int "value_int", ints "value_ints", text "value_string",
      texts "value_strings"]]⟩,
  ⟨"ConstantOfShape", [since 9 [need] [need] [tensor "value"]]⟩,
  ⟨"CumProd", [since 26 [need, need] [need] [int "exclusive", int "reverse"]]⟩,
  ⟨"CumSum", [since 11 [need, need] [need] [int "exclusive", int "reverse"]]⟩,
  ⟨"DepthToSpace", [since 1 [need] [need] [must (int "blocksize")],
    since 11 [need] [need] [must (int "blocksize"), text "mode"]]⟩,
  ⟨"Expand", [since 8 [need, need] [need] []]⟩,
  ⟨"EyeLike", [since 9 [need] [need] [int "dtype", int "k"]]⟩,
  ⟨"Flatten", [since 1 [need] [need] [int "axis"]]⟩,
  ⟨"Gather", [since 1 [need, need] [need] [int "axis"]]⟩,
  ⟨"GatherElements", [since 11 [need, need] [need] [int "axis"]]⟩,
  ⟨"GatherND", [since 11 [need, need] [need] [], since 12 [need, need] [need] [int "batch_dims"]]⟩,
  ⟨"NonZero", [since 9 [need] [need] []]⟩,
  ⟨"OneHot", [since 9 [need, need, need] [need] [int "axis"]]⟩,
  ⟨"Pad", [since 1 [need] [need] [text "mode", must (ints "paddings"), float "value"],
    since 2 [need] [need] [text "mode", must (ints "pads"), float "value"],
    since 11 [need, need, may] [need] [text "mode"],
    since 18 [need, need, may, may] [need] [text "mode"]]⟩,
  ⟨"Range", [since 11 [need, need, need] [need] []]⟩,
  ⟨"Reshape", [since 1 [need] [need] [ints "consumed_inputs", ints "shape"],
    since 5 [need, need] [need] [], since 14 [need, need] [need] [int "allowzero"]]⟩,
  ⟨"Resize", [since 10 [need, need] [need] [text "mode"],
    since 11 [need, need, need, may] [need] [text "coordinate_transformation_mode",
      float "cubic_coeff_a", int "exclude_outside", float "extrapolation_value", text "mode",
      text "nearest_mode"],
    since 13 [need, may, may, may] [need] [text "coordinate_transformation_mode",
      float "cubic_coeff_a", int "exclude_outside", float "extrapolation_value", text "mode",
      text "nearest_mode"], since 18 [need, may, may, may] [need] [int "antialias", ints "axes",
      text "coordinate_transformation_mode", float "cubic_coeff_a", int "exclude_outside",
      float "extrapolation_value", text "keep_aspect_ratio_policy", text "mode",
      text "nearest_mode"]]⟩,
  ⟨"ReverseSequence", [since 10 [need, need] [need] [int "batch_axis", int "time_axis"]]⟩,
  ⟨"Scatter", [since 9 [need, need, need] [need] [int "axis"], withdrawn 11]⟩,
  ⟨"ScatterElements", [since 11 [need, need, need] [need] [int "axis"],
    since 16 [need, need, need] [need] [int "axis", text "reduction"]]⟩,
  ⟨"ScatterND", [since 11 [need, need, need] [need] [],
    since 16 [need, need, need] [need] [text "reduction"]]⟩,
  ⟨"Shape", [since 1 [need] [need] [], since 15 [need] [need] [int "end", int "start"]]⟩,
  ⟨"Size", [since 1 [need] [need] []]⟩,
  ⟨"Slice", [since 1 [need] [need] [ints "axes", must (ints "ends"), must (ints "starts")],
    since 10 [need, need, need, may, may] [need] []]⟩,
  ⟨"SpaceToDepth", [since 1 [need] [need] [must (int "blocksize")]]⟩,
  ⟨"Split", [since 1 [need, may] [many 1] [int "axis", ints "split"],
    since 2 [need] [many 1] [int "axis", ints "split"],
    since 13 [need, may] [many 1] [int "axis"], since 18 [need, may] [many 1] [int "axis",
      int "num_outputs"]]⟩,
  ⟨"Squeeze", [since 1 [need] [need] [ints "axes"], since 13 [need, may] [need] []]⟩,
  ⟨"TensorScatter", [since 24 [need, need, may] [need] [int "axis", text "mode"]]⟩,
  ⟨"Tile", [since 1 [need, need, need] [need] [], since 6 [need, need] [need] []]⟩,
  ⟨"TopK", [since 1 [need] [need, need] [int "axis", must (int "k")],
    since 10 [need, need] [need, need] [int "axis"],
    since 11 [need, need] [need, need] [int "axis", int "largest", int "sorted"]]⟩,
  ⟨"Transpose", [since 1 [need] [need] [ints "perm"]]⟩,
  ⟨"Trilu", [since 14 [need, may] [need] [int "upper"]]⟩,
  ⟨"Unique", [since 11 [need] [need, may, may, may] [int "axis", int "sorted"]]⟩,
  ⟨"Unsqueeze", [since 1 [need] [need] [must (ints "axes")], since 13 [need, need] [need] []]⟩,
  ⟨"Upsample", [since 1 [need] [need] [must (float "height_scale"), text "mode",
      must (float "width_scale")], since 7 [need] [need] [text "mode", must (floats "scales")],
    since 9 [need, need] [need] [text "mode"], withdrawn 10]⟩]

end ReductionIR.OperatorSet
