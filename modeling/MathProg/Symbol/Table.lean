import MathProg.Symbol.Basic

/-!
The grammar symbols of GNU MathProg in the order of their numbers: the tokens first, then the
rules and the repetitions they use, last the four kinds that only occur as aliases.
-/

namespace MathProg.Symbol

/-- Name and form of every grammar symbol; the symbol's number is its place in the list. -/
def table : Array Entry := #[
  ⟨"end", .hidden⟩, ⟨"comment", .named⟩, ⟨"data", .literal⟩, ⟨";", .literal⟩, ⟨"end", .literal⟩,
  ⟨"solve", .literal⟩, ⟨"set", .literal⟩, ⟨"param", .literal⟩, ⟨"var", .literal⟩,
  ⟨"symbolic_name", .named⟩, ⟨",", .literal⟩, ⟨"dimen", .literal⟩, ⟨"integer", .literal⟩,
  ⟨"binary", .literal⟩, ⟨"logical", .literal⟩, ⟨"symbolic", .literal⟩, ⟨"within", .literal⟩,
  ⟨":=", .literal⟩, ⟨"default", .literal⟩, ⟨"in", .literal⟩, ⟨"<", .literal⟩, ⟨"<=", .literal⟩,
  ⟨"=", .literal⟩, ⟨"==", .literal⟩, ⟨">=", .literal⟩, ⟨">", .literal⟩, ⟨"<>", .literal⟩,
  ⟨"!=", .literal⟩, ⟨"s.t.", .literal⟩, ⟨"subject", .literal⟩, ⟨"subj", .literal⟩,
  ⟨"to", .literal⟩, ⟨":", .literal⟩, ⟨"maximize", .literal⟩, ⟨"minimize", .literal⟩,
  ⟨"check", .literal⟩, ⟨"display", .literal⟩, ⟨"printf", .literal⟩, ⟨">>", .literal⟩,
  ⟨"for", .literal⟩, ⟨"\x7b", .literal⟩, ⟨"\x7d", .literal⟩, ⟨"table", .literal⟩,
  ⟨"IN", .literal⟩, ⟨"<-", .literal⟩, ⟨"[", .literal⟩, ⟨"]", .literal⟩, ⟨"OUT", .literal⟩,
  ⟨"~", .literal⟩, ⟨"(", .literal⟩, ⟨")", .literal⟩, ⟨"+", .literal⟩, ⟨"-", .literal⟩,
  ⟨".", .literal⟩, ⟨"(tr)", .literal⟩, ⟨"*", .literal⟩, ⟨"less", .literal⟩, ⟨"/", .literal⟩,
  ⟨"div", .literal⟩, ⟨"mod", .literal⟩, ⟨"**", .literal⟩, ⟨"^", .literal⟩, ⟨"&", .literal⟩,
  ⟨"union", .literal⟩, ⟨"diff", .literal⟩, ⟨"symdiff", .literal⟩, ⟨"inter", .literal⟩,
  ⟨"cross", .literal⟩, ⟨"or", .literal⟩, ⟨"||", .literal⟩, ⟨"and", .literal⟩, ⟨"&&", .literal⟩,
  ⟨"not", .literal⟩, ⟨"!", .literal⟩, ⟨"..", .literal⟩, ⟨"by", .literal⟩, ⟨"suffix", .named⟩,
  ⟨"if", .literal⟩, ⟨"then", .literal⟩, ⟨"else", .literal⟩, ⟨"sum", .literal⟩, ⟨"prod", .literal⟩,
  ⟨"min", .literal⟩, ⟨"max", .literal⟩, ⟨"exists", .literal⟩, ⟨"forall", .literal⟩,
  ⟨"setof", .literal⟩, ⟨"Irand224", .literal⟩, ⟨"Normal", .literal⟩, ⟨"Normal01", .literal⟩,
  ⟨"Uniform", .literal⟩, ⟨"Uniform01", .literal⟩, ⟨"abs", .literal⟩, ⟨"atan", .literal⟩,
  ⟨"card", .literal⟩, ⟨"ceil", .literal⟩, ⟨"cos", .literal⟩, ⟨"exp", .literal⟩,
  ⟨"floor", .literal⟩, ⟨"gmtime", .literal⟩, ⟨"length", .literal⟩, ⟨"log", .literal⟩,
  ⟨"log10", .literal⟩, ⟨"round", .literal⟩, ⟨"sin", .literal⟩, ⟨"sqrt", .literal⟩,
  ⟨"str2time", .literal⟩, ⟨"substr", .literal⟩, ⟨"tan", .literal⟩, ⟨"time2str", .literal⟩,
  ⟨"trunc", .literal⟩, ⟨"string", .named⟩, ⟨"number", .named⟩, ⟨"bareword", .named⟩,
  ⟨"_error_sentinel", .hidden⟩, ⟨"model", .named⟩, ⟨"_model_statement", .hidden⟩,
  ⟨"_data_statement", .hidden⟩, ⟨"data", .named⟩, ⟨"end", .named⟩, ⟨"solve", .named⟩,
  ⟨"set", .named⟩, ⟨"param", .named⟩, ⟨"var", .named⟩, ⟨"_declared_name", .hidden⟩,
  ⟨"_attribute_item", .hidden⟩, ⟨"attribute", .named⟩, ⟨"constraint", .named⟩,
  ⟨"objective", .named⟩, ⟨"check", .named⟩, ⟨"display", .named⟩, ⟨"printf", .named⟩,
  ⟨"for", .named⟩, ⟨"_for_statement", .hidden⟩, ⟨"table", .named⟩, ⟨"_table_input", .hidden⟩,
  ⟨"_table_output", .hidden⟩, ⟨"_table_field", .hidden⟩, ⟨"set_data", .named⟩,
  ⟨"_set_record", .hidden⟩, ⟨"_set_matrix", .hidden⟩, ⟨"param_data", .named⟩,
  ⟨"_param_record", .hidden⟩, ⟨"tabular_data", .named⟩, ⟨"_matrix_head", .hidden⟩,
  ⟨"_tabbing", .hidden⟩, ⟨"_values", .hidden⟩, ⟨"_data_subscript", .hidden⟩, ⟨"slice", .named⟩,
  ⟨"value", .named⟩, ⟨"expr", .named⟩, ⟨"_output_expr", .hidden⟩, ⟨"linear_expression", .named⟩,
  ⟨"sym_expr", .named⟩, ⟨"_primary", .hidden⟩, ⟨"conditional_expression", .named⟩,
  ⟨"_output_conditional", .hidden⟩, ⟨"_linear_conditional", .hidden⟩,
  ⟨"iterated_expression", .named⟩, ⟨"indexing_expression", .named⟩, ⟨"indexing_entry", .named⟩,
  ⟨"literal_set", .named⟩, ⟨"_set_elements", .hidden⟩, ⟨"_set_element", .hidden⟩,
  ⟨"tupel", .named⟩, ⟨"subscript", .named⟩, ⟨"function_call", .named⟩, ⟨"function_name", .named⟩,
  ⟨"model_repeat1", .repetition⟩, ⟨"model_repeat2", .repetition⟩, ⟨"set_repeat1", .repetition⟩,
  ⟨"param_repeat1", .repetition⟩, ⟨"var_repeat1", .repetition⟩, ⟨"display_repeat1", .repetition⟩,
  ⟨"printf_repeat1", .repetition⟩, ⟨"for_repeat1", .repetition⟩,
  ⟨"_table_input_repeat1", .repetition⟩, ⟨"_table_input_repeat2", .repetition⟩,
  ⟨"_table_input_repeat3", .repetition⟩, ⟨"_table_output_repeat1", .repetition⟩,
  ⟨"_table_output_repeat2", .repetition⟩, ⟨"set_data_repeat1", .repetition⟩,
  ⟨"_set_matrix_repeat1", .repetition⟩, ⟨"param_data_repeat1", .repetition⟩,
  ⟨"tabular_data_repeat1", .repetition⟩, ⟨"tabular_data_repeat2", .repetition⟩,
  ⟨"_tabbing_repeat1", .repetition⟩, ⟨"_data_subscript_repeat1", .repetition⟩,
  ⟨"slice_repeat1", .repetition⟩, ⟨"indexing_expression_repeat1", .repetition⟩,
  ⟨"tupel_repeat1", .repetition⟩, ⟨"subscript_repeat1", .repetition⟩,
  ⟨"function_call_repeat1", .repetition⟩, ⟨"model_object", .named⟩, ⟨"alias", .named⟩,
  ⟨"operator", .named⟩, ⟨"record", .named⟩]

end MathProg.Symbol
