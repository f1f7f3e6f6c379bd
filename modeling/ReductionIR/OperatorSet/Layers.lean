import ReductionIR.OperatorSet.Signature
/-
Operators of networks: products, convolutions, pooling, normalization, recurrent cells,
random and quantized values, and their signatures.
-/
namespace ReductionIR.OperatorSet

open Arity AttributeRule

def layers : List Operator := [
  ⟨"AffineGrid", [since 20 [need, need] [need] [int "align_corners"]]⟩,
  ⟨"Attention", [
    since 23 [need, need, need, may, may, may] [need, may, may, may] [int "is_causal",
      int "kv_num_heads", int "q_num_heads", int "qk_matmul_output_mode", float "scale",
      float "softcap", int "softmax_precision"],
    since 24 [need, need, need, may, may, may, may] [need, may, may, may] [int "is_causal",
      int "kv_num_heads", int "q_num_heads", int "qk_matmul_output_mode", float "scale",
      float "softcap", int "softmax_precision"]]⟩,
  ⟨"AveragePool", [since 1 [need] [need] [text "auto_pad", must (ints "kernel_shape"),
      ints "pads", ints "strides"], since 7 [need] [need] [text "auto_pad",
      int "count_include_pad", must (ints "kernel_shape"), ints "pads", ints "strides"],
    since 10 [need] [need] [text "auto_pad", int "ceil_mode", int "count_include_pad",
      must (ints "kernel_shape"), ints "pads", ints "strides"],
    since 19 [need] [need] [text "auto_pad", int "ceil_mode", int "count_include_pad",
      ints "dilations", must (ints "kernel_shape"), ints "pads", ints "strides"]]⟩,
  ⟨"BatchNormalization", [
    sinceWith 1 [need, need, need, need, need] [need, may, may, may, may] [1, 5]
      [must (ints "consumed_inputs"), float "epsilon", int "is_test", float "momentum",
        int "spatial"],
    sinceWith 6 [need, need, need, need, need] [need, may, may, may, may] [1, 5]
      [float "epsilon", int "is_test", float "momentum", int "spatial"],
    sinceWith 7 [need, need, need, need, need] [need, may, may, may, may] [1, 5]
      [float "epsilon", float "momentum", int "spatial"],
    since 9 [need, need, need, need, need] [need, may, may, may, may] [float "epsilon",
      float "momentum"],
    since 14 [need, need, need, need, need] [need, may, may] [float "epsilon", float "momentum",
      int "training_mode"]]⟩,
  ⟨"Bernoulli", [since 15 [need] [need] [int "dtype", float "seed"]]⟩,
  ⟨"BlackmanWindow", [since 17 [need] [need] [int "output_datatype", int "periodic"]]⟩,
  ⟨"Col2Im", [since 18 [need, need, need] [need] [ints "dilations", ints "pads", ints "strides"]]⟩,
  ⟨"Conv", [since 1 [need, need, may] [need] [text "auto_pad", ints "dilations", int "group",
      ints "kernel_shape", ints "pads", ints "strides"]]⟩,
  ⟨"ConvInteger", [since 10 [need, need, may, may] [need] [text "auto_pad", ints "dilations",
      int "group", ints "kernel_shape", ints "pads", ints "strides"]]⟩,
  ⟨"ConvTranspose", [since 1 [need, need, may] [need] [text "auto_pad", ints "dilations",
      int "group", ints "kernel_shape", ints "output_padding", ints "output_shape", ints "pads",
      ints "strides"]]⟩,
  ⟨"DFT", [since 17 [need, may] [need] [int "axis", int "inverse", int "onesided"],
    since 20 [need, may, may] [need] [int "inverse", int "onesided"]]⟩,
  ⟨"DeformConv", [since 19 [need, need, need, may, may] [need] [ints "dilations", int "group",
      ints "kernel_shape", int "offset_group", ints "pads", ints "strides"]]⟩,
  ⟨"DequantizeLinear", [since 10 [need, need, may] [need] [],
    since 13 [need, need, may] [need] [int "axis"], since 21 [need, need, may] [need] [int "axis",
      int "block_size"], since 23 [need, need, may] [need] [int "axis", int "block_size",
      int "output_dtype"]]⟩,
  ⟨"Det", [since 11 [need] [need] []]⟩,
  ⟨"Dropout", [since 1 [need] [need, may] [ints "consumed_inputs", int "is_test", float "ratio"],
    since 6 [need] [need, may] [int "is_test", float "ratio"],
    since 7 [need] [need, may] [float "ratio"],
    since 12 [need, may, may] [need, may] [int "seed"]]⟩,
  ⟨"DynamicQuantizeLinear", [since 11 [need] [need, need, need] []]⟩,
  ⟨"Einsum", [since 12 [many 1] [need] [must (text "equation")]]⟩,
  ⟨"GRU", [since 1 [need, need, need, may, may, may] [may, need] [floats "activation_alpha",
      floats "activation_beta", texts "activations", float "clip", text "direction",
      int "hidden_size", int "output_sequence"],
    since 3 [need, need, need, may, may, may] [may, may] [floats "activation_alpha",
      floats "activation_beta", texts "activations", float "clip", text "direction",
      int "hidden_size", int "linear_before_reset", int "output_sequence"],
    since 7 [need, need, need, may, may, may] [may, may] [floats "activation_alpha",
      floats "activation_beta", texts "activations", float "clip", text "direction",
      int "hidden_size", int "linear_before_reset"],
    since 14 [need, need, need, may, may, may] [may, may] [floats "activation_alpha",
      floats "activation_beta", texts "activations", float "clip", text "direction",
      int "hidden_size", int "layout", int "linear_before_reset"]]⟩,
  ⟨"Gemm", [since 1 [need, need, need] [need] [float "alpha", float "beta", int "broadcast",
      int "transA", int "transB"], since 7 [need, need, need] [need] [float "alpha", float "beta",
      int "transA", int "transB"], since 11 [need, need, may] [need] [float "alpha", float "beta",
      int "transA", int "transB"]]⟩,
  ⟨"GlobalAveragePool", [since 1 [need] [need] []]⟩,
  ⟨"GlobalLpPool", [since 1 [need] [need] [float "p"], since 2 [need] [need] [int "p"]]⟩,
  ⟨"GlobalMaxPool", [since 1 [need] [need] []]⟩,
  ⟨"GridSample", [since 16 [need, need] [need] [int "align_corners", text "mode",
      text "padding_mode"]]⟩,
  ⟨"GroupNormalization", [withdrawn 18, since 21 [need, need, need] [need] [float "epsilon",
      must (int "num_groups"), int "stash_type"]]⟩,
  ⟨"HammingWindow", [since 17 [need] [need] [int "output_datatype", int "periodic"]]⟩,
  ⟨"HannWindow", [since 17 [need] [need] [int "output_datatype", int "periodic"]]⟩,
  ⟨"InstanceNormalization", [since 1 [need, need, need] [need] [ints "consumed_inputs",
      float "epsilon"], since 6 [need, need, need] [need] [float "epsilon"]]⟩,
  ⟨"LRN", [since 1 [need] [need] [float "alpha", float "beta", float "bias", must (int "size")]]⟩,
  ⟨"LSTM", [
    since 1 [need, need, need, may, may, may, may, may] [may, may, may] [floats "activation_alpha",
      floats "activation_beta", texts "activations", float "clip", text "direction",
      int "hidden_size", int "input_forget", int "output_sequence"],
    since 7 [need, need, need, may, may, may, may, may] [may, may, may] [floats "activation_alpha",
      floats "activation_beta", texts "activations", float "clip", text "direction",
      int "hidden_size", int "input_forget"],
    since 14 [need, need, need, may, may, may, may, may] [may, may, may] [floats "activation_alpha",
      floats "activation_beta", texts "activations", float "clip", text "direction",
      int "hidden_size", int "input_forget", int "layout"]]⟩,
  ⟨"LayerNormalization", [since 17 [need, need, may] [need, may, may] [int "axis",
      float "epsilon", int "stash_type"]]⟩,
  ⟨"LpNormalization", [since 1 [need] [need] [int "axis", int "p"]]⟩,
  ⟨"LpPool", [since 1 [need] [need] [text "auto_pad", ints "kernel_shape", float "p", ints "pads",
      ints "strides"], since 2 [need] [need] [text "auto_pad", must (ints "kernel_shape"),
      int "p", ints "pads", ints "strides"], since 18 [need] [need] [text "auto_pad",
      int "ceil_mode", ints "dilations", must (ints "kernel_shape"), int "p", ints "pads",
      ints "strides"]]⟩,
  ⟨"MatMul", [since 1 [need, need] [need] []]⟩,
  ⟨"MatMulInteger", [since 10 [need, need, may, may] [need] []]⟩,
  ⟨"MaxPool", [since 1 [need] [need] [text "auto_pad", must (ints "kernel_shape"), ints "pads",
      ints "strides"], since 8 [need] [need, may] [text "auto_pad", must (ints "kernel_shape"),
      ints "pads", int "storage_order", ints "strides"],
    since 10 [need] [need, may] [text "auto_pad", int "ceil_mode", ints "dilations",
      must (ints "kernel_shape"), ints "pads", int "storage_order", ints "strides"]]⟩,
  ⟨"MaxRoiPool", [since 1 [need, need] [need] [must (ints "pooled_shape"),
      float "spatial_scale"]]⟩,
  ⟨"MaxUnpool", [since 9 [need, need, may] [need] [must (ints "kernel_shape"), ints "pads",
      ints "strides"]]⟩,
  ⟨"MeanVarianceNormalization", [since 9 [need] [need] [ints "axes"]]⟩,
  ⟨"MelWeightMatrix", [since 17 [need, need, need, need, need] [need] [int "output_datatype"]]⟩,
  ⟨"Multinomial", [since 7 [need] [need] [int "dtype", int "sample_size", float "seed"]]⟩,
  ⟨"NegativeLogLikelihoodLoss", [since 12 [need, need, may] [need] [int "ignore_index",
      text "reduction"]]⟩,
  ⟨"NonMaxSuppression", [since 10 [need, need, may, may, may] [need] [int "center_point_box"]]⟩,
  ⟨"QLinearConv", [
    since 10 [need, need, need, need, need, need, need, need, may] [need] [text "auto_pad",
      ints "dilations", int "group", ints "kernel_shape", ints "pads", ints "strides"]]⟩,
  ⟨"QLinearMatMul", [since 10 [need, need, need, need, need, need, need, need] [need] []]⟩,
  ⟨"QuantizeLinear", [since 10 [need, need, may] [need] [],
    since 13 [need, need, may] [need] [int "axis"], since 19 [need, need, may] [need] [int "axis",
      int "saturate"], since 21 [need, need, may] [need] [int "axis", int "block_size",
      int "output_dtype", int "saturate"], since 23 [need, need, may] [need] [int "axis",
      int "block_size", int "output_dtype", int "precision", int "saturate"]]⟩,
  ⟨"RMSNormalization", [since 23 [need, need] [need] [int "axis", float "epsilon",
      int "stash_type"]]⟩,
  ⟨"RNN", [since 1 [need, need, need, may, may, may] [may, may] [floats "activation_alpha",
      floats "activation_beta", texts "activations", float "clip", text "direction",
      int "hidden_size", int "output_sequence"],
    since 7 [need, need, need, may, may, may] [may, may] [floats "activation_alpha",
      floats "activation_beta", texts "activations", float "clip", text "direction",
      int "hidden_size"],
    since 14 [need, need, need, may, may, may] [may, may] [floats "activation_alpha",
      floats "activation_beta", texts "activations", float "clip", text "direction",
      int "hidden_size", int "layout"]]⟩,
  ⟨"RandomNormal", [since 1 [] [need] [int "dtype", float "mean", float "scale", float "seed",
      must (ints "shape")]]⟩,
  ⟨"RandomNormalLike", [since 1 [need] [need] [int "dtype", float "mean", float "scale",
      float "seed"]]⟩,
  ⟨"RandomUniform", [since 1 [] [need] [int "dtype", float "high", float "low", float "seed",
      must (ints "shape")]]⟩,
  ⟨"RandomUniformLike", [since 1 [need] [need] [int "dtype", float "high", float "low",
      float "seed"]]⟩,
  ⟨"RoiAlign", [since 10 [need, need, need] [need] [text "mode", int "output_height",
      int "output_width", int "sampling_ratio", float "spatial_scale"],
    since 16 [need, need, need] [need] [text "coordinate_transformation_mode", text "mode",
      int "output_height", int "output_width", int "sampling_ratio", float "spatial_scale"]]⟩,
  ⟨"RotaryEmbedding", [since 23 [need, need, need, may] [need] [int "interleaved",
      int "num_heads", int "rotary_embedding_dim"]]⟩,
  ⟨"STFT", [since 17 [need, need, may, may] [need] [int "onesided"]]⟩,
  ⟨"SoftmaxCrossEntropyLoss", [since 12 [need, need, may] [need, may] [int "ignore_index",
      text "reduction"]]⟩]

end ReductionIR.OperatorSet
