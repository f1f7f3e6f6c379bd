import ReductionIR.OperatorSet.Signature
/-
Operators of classical learned models, which have a domain of their own, and their
signatures.
-/
namespace ReductionIR.OperatorSet

open Arity AttributeRule

def learned : List Operator := [
  ⟨"ArrayFeatureExtractor", [since 1 [need, need] [need] []]⟩,
  ⟨"Binarizer", [since 1 [need] [need] [float "threshold"]]⟩,
  ⟨"CastMap", [since 1 [need] [need] [text "cast_to", text "map_form", int "max_map"]]⟩,
  ⟨"CategoryMapper", [since 1 [need] [need] [ints "cats_int64s", texts "cats_strings",
      int "default_int64", text "default_string"]]⟩,
  ⟨"DictVectorizer", [since 1 [need] [need] [ints "int64_vocabulary", texts "string_vocabulary"]]⟩,
  ⟨"FeatureVectorizer", [since 1 [many 1] [need] [ints "inputdimensions"]]⟩,
  ⟨"Imputer", [since 1 [need] [need] [floats "imputed_value_floats", ints "imputed_value_int64s",
      float "replaced_value_float", int "replaced_value_int64"]]⟩,
  ⟨"LabelEncoder", [since 1 [need] [need] [texts "classes_strings", int "default_int64",
      text "default_string"], since 2 [need] [need] [float "default_float", int "default_int64",
      text "default_string", floats "keys_floats", ints "keys_int64s", texts "keys_strings",
      floats "values_floats", ints "values_int64s", texts "values_strings"],
    since 4 [need] [need] [float "default_float", int "default_int64", text "default_string",
      tensor "default_tensor", floats "keys_floats", ints "keys_int64s", texts "keys_strings",
      tensor "keys_tensor", floats "values_floats", ints "values_int64s", texts "values_strings",
      tensor "values_tensor"]]⟩,
  ⟨"LinearClassifier", [since 1 [need] [need, need] [ints "classlabels_ints",
      texts "classlabels_strings", must (floats "coefficients"), floats "intercepts",
      int "multi_class", text "post_transform"]]⟩,
  ⟨"LinearRegressor", [since 1 [need] [need] [floats "coefficients", floats "intercepts",
      text "post_transform", int "targets"]]⟩,
  ⟨"Normalizer", [since 1 [need] [need] [text "norm"]]⟩,
  ⟨"OneHotEncoder", [since 1 [need] [need] [ints "cats_int64s", texts "cats_strings",
      int "zeros"]]⟩,
  ⟨"SVMClassifier", [since 1 [need] [need, need] [ints "classlabels_ints",
      texts "classlabels_strings", floats "coefficients", floats "kernel_params",
      text "kernel_type", text "post_transform", floats "prob_a", floats "prob_b", floats "rho",
      floats "support_vectors", ints "vectors_per_class"]]⟩,
  ⟨"SVMRegressor", [since 1 [need] [need] [floats "coefficients", floats "kernel_params",
      text "kernel_type", int "n_supports", int "one_class", text "post_transform", floats "rho",
      floats "support_vectors"]]⟩,
  ⟨"Scaler", [since 1 [need] [need] [floats "offset", floats "scale"]]⟩,
  ⟨"TreeEnsemble", [since 5 [need] [need] [int "aggregate_function",
      must (ints "leaf_targetids"), must (tensor "leaf_weights"), tensor "membership_values",
      int "n_targets", must (ints "nodes_falseleafs"), must (ints "nodes_falsenodeids"),
      must (ints "nodes_featureids"), tensor "nodes_hitrates",
      ints "nodes_missing_value_tracks_true", must (tensor "nodes_modes"),
      must (tensor "nodes_splits"), must (ints "nodes_trueleafs"),
      must (ints "nodes_truenodeids"), int "post_transform", must (ints "tree_roots")]]⟩,
  ⟨"TreeEnsembleClassifier", [since 1 [need] [need, need] [floats "base_values", ints "class_ids",
      ints "class_nodeids", ints "class_treeids", floats "class_weights",
      ints "classlabels_int64s", texts "classlabels_strings", ints "nodes_falsenodeids",
      ints "nodes_featureids", floats "nodes_hitrates", ints "nodes_missing_value_tracks_true",
      texts "nodes_modes", ints "nodes_nodeids", ints "nodes_treeids", ints "nodes_truenodeids",
      floats "nodes_values", text "post_transform"],
    since 3 [need] [need, need] [floats "base_values", tensor "base_values_as_tensor",
      ints "class_ids", ints "class_nodeids", ints "class_treeids", floats "class_weights",
      tensor "class_weights_as_tensor", ints "classlabels_int64s", texts "classlabels_strings",
      tensor "nodes_hitrates_as_tensor", tensor "nodes_values_as_tensor",
      ints "nodes_falsenodeids", ints "nodes_featureids", floats "nodes_hitrates",
      ints "nodes_missing_value_tracks_true", texts "nodes_modes", ints "nodes_nodeids",
      ints "nodes_treeids", ints "nodes_truenodeids", floats "nodes_values",
      text "post_transform"], withdrawn 5]⟩,
  ⟨"TreeEnsembleRegressor", [since 1 [need] [need] [text "aggregate_function",
      floats "base_values", int "n_targets", ints "nodes_falsenodeids", ints "nodes_featureids",
      floats "nodes_hitrates", ints "nodes_missing_value_tracks_true", texts "nodes_modes",
      ints "nodes_nodeids", ints "nodes_treeids", ints "nodes_truenodeids", floats "nodes_values",
      text "post_transform", ints "target_ids", ints "target_nodeids", ints "target_treeids",
      floats "target_weights"], since 3 [need] [need] [text "aggregate_function",
      floats "base_values", tensor "base_values_as_tensor", int "n_targets",
      tensor "nodes_hitrates_as_tensor", tensor "nodes_values_as_tensor",
      ints "nodes_falsenodeids", ints "nodes_featureids", floats "nodes_hitrates",
      ints "nodes_missing_value_tracks_true", texts "nodes_modes", ints "nodes_nodeids",
      ints "nodes_treeids", ints "nodes_truenodeids", floats "nodes_values",
      text "post_transform", ints "target_ids", ints "target_nodeids", ints "target_treeids",
      floats "target_weights", tensor "target_weights_as_tensor"], withdrawn 5]⟩,
  ⟨"ZipMap", [since 1 [need] [need] [ints "classlabels_int64s", texts "classlabels_strings"]]⟩]

def training : List Operator := [
  ⟨"Adagrad", [since 1 [need, need, many 1] [many 1] [float "decay_factor", float "epsilon",
      float "norm_coefficient"]]⟩,
  ⟨"Adam", [since 1 [need, need, many 1] [many 1] [float "alpha", float "beta", float "epsilon",
      float "norm_coefficient", float "norm_coefficient_post"]]⟩,
  ⟨"Gradient", [since 1 [many 1] [many 1] [must (texts "xs"), must (text "y"), texts "zs"]]⟩,
  ⟨"Momentum", [since 1 [need, need, many 1] [many 1] [must (float "alpha"),
      must (float "beta"), must (text "mode"), must (float "norm_coefficient")]]⟩]

end ReductionIR.OperatorSet
