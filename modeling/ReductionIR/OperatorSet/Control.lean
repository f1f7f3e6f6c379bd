import ReductionIR.OperatorSet.Signature
/-
Operators on branches, loops, sequences, optional values and texts, and their signatures.
-/
namespace ReductionIR.OperatorSet

open Arity AttributeRule

def control : List Operator := [
  ⟨"ConcatFromSequence", [since 11 [need] [need] [must (int "axis"), int "new_axis"]]⟩,
  ⟨"If", [since 1 [need] [many 1] [must (graph "else_branch"), must (graph "then_branch")]]⟩,
  ⟨"ImageDecoder", [since 20 [need] [need] [text "pixel_format"]]⟩,
  ⟨"Loop", [since 1 [may, may, many 1] [many 1] [must (graph "body")],
    since 11 [may, may, many 0] [many 1] [must (graph "body")]]⟩,
  ⟨"Optional", [since 15 [may] [need] [type "type"]]⟩,
  ⟨"OptionalGetElement", [since 15 [need] [need] []]⟩,
  ⟨"OptionalHasElement", [since 15 [need] [need] [], since 18 [may] [need] []]⟩,
  ⟨"RegexFullMatch", [since 20 [need] [need] [text "pattern"]]⟩,
  ⟨"Scan", [since 8 [may, many 1] [many 1] [must (graph "body"), ints "directions",
      must (int "num_scan_inputs")], since 9 [many 1] [many 1] [must (graph "body"),
      must (int "num_scan_inputs"), ints "scan_input_axes", ints "scan_input_directions",
      ints "scan_output_axes", ints "scan_output_directions"]]⟩,
  ⟨"SequenceAt", [since 11 [need, need] [need] []]⟩,
  ⟨"SequenceConstruct", [since 11 [many 1] [need] []]⟩,
  ⟨"SequenceEmpty", [since 11 [] [need] [int "dtype"]]⟩,
  ⟨"SequenceErase", [since 11 [need, may] [need] []]⟩,
  ⟨"SequenceInsert", [since 11 [need, need, may] [need] []]⟩,
  ⟨"SequenceLength", [since 11 [need] [need] []]⟩,
  ⟨"SequenceMap", [since 17 [need, many 0] [many 1] [must (graph "body")]]⟩,
  ⟨"SplitToSequence", [since 11 [need, may] [need] [int "axis", int "keepdims"]]⟩,
  ⟨"StringConcat", [since 20 [need, need] [need] []]⟩,
  ⟨"StringNormalizer", [since 10 [need] [need] [text "case_change_action",
      int "is_case_sensitive", text "locale", texts "stopwords"]]⟩,
  ⟨"StringSplit", [since 20 [need] [need, need] [text "delimiter", int "maxsplit"]]⟩,
  ⟨"TfIdfVectorizer", [since 9 [need] [need] [must (int "max_gram_length"),
      must (int "max_skip_count"), must (int "min_gram_length"), must (text "mode"),
      must (ints "ngram_counts"), must (ints "ngram_indexes"), ints "pool_int64s",
      texts "pool_strings", floats "weights"]]⟩]

end ReductionIR.OperatorSet
