/-!
# The descriptor schema

A compiled schema is a tree of messages of the types listed here. A field says which number it
has, what it holds and how often it occurs; an enum lists the numbers that mean something. The
names are those of the published descriptor format, since they appear in answers.
-/
namespace SchemaDoc.Descriptor

/-- The message types of the descriptor format. -/
inductive MessageType where
  | fileSet
  | file
  | message
  | extensionRange
  | reservedRange
  | extensionRangeOptions
  | extensionDeclaration
  | field
  | oneof
  | enum
  | enumReservedRange
  | enumValue
  | service
  | method
  | fileOptions
  | messageOptions
  | fieldOptions
  | editionDefault
  | featureSupport
  | oneofOptions
  | enumOptions
  | enumValueOptions
  | serviceOptions
  | methodOptions
  | uninterpretedOption
  | namePart
  | featureSet
  | sourceCodeInfo
  | location
  deriving DecidableEq, Repr

/-- The name of a message type inside its package. -/
def MessageType.name : MessageType → String
  | .fileSet => "FileDescriptorSet"
  | .file => "FileDescriptorProto"
  | .message => "DescriptorProto"
  | .extensionRange => "DescriptorProto.ExtensionRange"
  | .reservedRange => "DescriptorProto.ReservedRange"
  | .extensionRangeOptions => "ExtensionRangeOptions"
  | .extensionDeclaration => "ExtensionRangeOptions.Declaration"
  | .field => "FieldDescriptorProto"
  | .oneof => "OneofDescriptorProto"
  | .enum => "EnumDescriptorProto"
  | .enumReservedRange => "EnumDescriptorProto.EnumReservedRange"
  | .enumValue => "EnumValueDescriptorProto"
  | .service => "ServiceDescriptorProto"
  | .method => "MethodDescriptorProto"
  | .fileOptions => "FileOptions"
  | .messageOptions => "MessageOptions"
  | .fieldOptions => "FieldOptions"
  | .editionDefault => "FieldOptions.EditionDefault"
  | .featureSupport => "FieldOptions.FeatureSupport"
  | .oneofOptions => "OneofOptions"
  | .enumOptions => "EnumOptions"
  | .enumValueOptions => "EnumValueOptions"
  | .serviceOptions => "ServiceOptions"
  | .methodOptions => "MethodOptions"
  | .uninterpretedOption => "UninterpretedOption"
  | .namePart => "UninterpretedOption.NamePart"
  | .featureSet => "FeatureSet"
  | .sourceCodeInfo => "SourceCodeInfo"
  | .location => "SourceCodeInfo.Location"

/-- The name of a message type with its package. -/
def MessageType.fullName (type : MessageType) : String :=
  "google.protobuf." ++ type.name

/-- The enum types of the descriptor format. -/
inductive EnumType where
  | edition
  | symbolVisibility
  | verificationState
  | fieldLabel
  | fieldType
  | optimizeMode
  | stringType
  | numberType
  | optionRetention
  | optionTarget
  | idempotencyLevel
  | namingStyle
  | enumOpenness
  | fieldPresence
  | jsonFormat
  | messageEncoding
  | repeatedFieldEncoding
  | utf8Validation
  | protoLimits
  | defaultVisibility
  deriving DecidableEq, Repr

/-- The numbers that an enum type lists. -/
def EnumType.listed : EnumType → List Int
  | .edition => [0, 900, 998, 999, 1000, 1001, 1002, 9999, 1, 2, 99997, 99998, 99999, 2147483647]
  | .symbolVisibility => [0, 1, 2]
  | .verificationState => [0, 1]
  | .fieldLabel => [1, 3, 2]
  | .fieldType => [1, 2, 3, 4, 5, 6, 7, 8, 9, 10, 11, 12, 13, 14, 15, 16, 17, 18]
  | .optimizeMode => [1, 2, 3]
  | .stringType => [0, 1, 2]
  | .numberType => [0, 1, 2]
  | .optionRetention => [0, 1, 2]
  | .optionTarget => [0, 1, 2, 3, 4, 5, 6, 7, 8, 9]
  | .idempotencyLevel => [0, 1, 2]
  | .namingStyle => [0, 1, 2, 3]
  | .enumOpenness => [0, 1, 2]
  | .fieldPresence => [0, 1, 2, 3]
  | .jsonFormat => [0, 1, 2]
  | .messageEncoding => [0, 1, 2]
  | .repeatedFieldEncoding => [0, 1, 2]
  | .utf8Validation => [0, 2, 3]
  | .protoLimits => [0, 1, 2]
  | .defaultVisibility => [0, 1, 2, 3, 4]

/-- What a field holds. -/
inductive FieldKind where
  | bool
  | int32
  | int64
  | uint64
  | double
  | enumeration (type : EnumType)
  | string
  | bytes
  | message (type : MessageType)
  deriving DecidableEq, Repr

/-- How often a field may occur. A required field must be set before its message is written, and a
packed one keeps all its numbers in one record. -/
inductive Label where
  | optional
  | required
  | repeated
  | packed
  deriving DecidableEq, Repr

/-- How values are kept in a field. -/
inductive Occurrence where
  | single
  | repeated
  | packed
  deriving DecidableEq, Repr

/-- A field that is no list occurs once. -/
def Label.occurrence : Label → Occurrence
  | .optional | .required => .single
  | .repeated => .repeated
  | .packed => .packed

/-- One field of a message type. -/
structure FieldSpec where
  number : Nat
  name : String
  kind : FieldKind
  label : Label
  deriving DecidableEq, Repr

/-- How the values of this field are kept. -/
def FieldSpec.occurrence (spec : FieldSpec) : Occurrence :=
  spec.label.occurrence

/-- The fields of a message type, ascending by number. -/
def MessageType.fields : MessageType → List FieldSpec
  | .fileSet =>
    [⟨1, "file", .message .file, .repeated⟩]
  | .file =>
    [⟨1, "name", .string, .optional⟩,
     ⟨2, "package", .string, .optional⟩,
     ⟨3, "dependency", .string, .repeated⟩,
     ⟨4, "message_type", .message .message, .repeated⟩,
     ⟨5, "enum_type", .message .enum, .repeated⟩,
     ⟨6, "service", .message .service, .repeated⟩,
     ⟨7, "extension", .message .field, .repeated⟩,
     ⟨8, "options", .message .fileOptions, .optional⟩,
     ⟨9, "source_code_info", .message .sourceCodeInfo, .optional⟩,
     ⟨10, "public_dependency", .int32, .repeated⟩,
     ⟨11, "weak_dependency", .int32, .repeated⟩,
     ⟨12, "syntax", .string, .optional⟩,
     ⟨14, "edition", .enumeration .edition, .optional⟩,
     ⟨15, "option_dependency", .string, .repeated⟩]
  | .message =>
    [⟨1, "name", .string, .optional⟩,
     ⟨2, "field", .message .field, .repeated⟩,
     ⟨3, "nested_type", .message .message, .repeated⟩,
     ⟨4, "enum_type", .message .enum, .repeated⟩,
     ⟨5, "extension_range", .message .extensionRange, .repeated⟩,
     ⟨6, "extension", .message .field, .repeated⟩,
     ⟨7, "options", .message .messageOptions, .optional⟩,
     ⟨8, "oneof_decl", .message .oneof, .repeated⟩,
     ⟨9, "reserved_range", .message .reservedRange, .repeated⟩,
     ⟨10, "reserved_name", .string, .repeated⟩,
     ⟨11, "visibility", .enumeration .symbolVisibility, .optional⟩]
  | .extensionRange =>
    [⟨1, "start", .int32, .optional⟩,
     ⟨2, "end", .int32, .optional⟩,
     ⟨3, "options", .message .extensionRangeOptions, .optional⟩]
  | .reservedRange =>
    [⟨1, "start", .int32, .optional⟩,
     ⟨2, "end", .int32, .optional⟩]
  | .extensionRangeOptions =>
    [⟨2, "declaration", .message .extensionDeclaration, .repeated⟩,
     ⟨3, "verification", .enumeration .verificationState, .optional⟩,
     ⟨50, "features", .message .featureSet, .optional⟩,
     ⟨999, "uninterpreted_option", .message .uninterpretedOption, .repeated⟩]
  | .extensionDeclaration =>
    [⟨1, "number", .int32, .optional⟩,
     ⟨2, "full_name", .string, .optional⟩,
     ⟨3, "type", .string, .optional⟩,
     ⟨5, "reserved", .bool, .optional⟩,
     ⟨6, "repeated", .bool, .optional⟩]
  | .field =>
    [⟨1, "name", .string, .optional⟩,
     ⟨2, "extendee", .string, .optional⟩,
     ⟨3, "number", .int32, .optional⟩,
     ⟨4, "label", .enumeration .fieldLabel, .optional⟩,
     ⟨5, "type", .enumeration .fieldType, .optional⟩,
     ⟨6, "type_name", .string, .optional⟩,
     ⟨7, "default_value", .string, .optional⟩,
     ⟨8, "options", .message .fieldOptions, .optional⟩,
     ⟨9, "oneof_index", .int32, .optional⟩,
     ⟨10, "json_name", .string, .optional⟩,
     ⟨17, "proto3_optional", .bool, .optional⟩]
  | .oneof =>
    [⟨1, "name", .string, .optional⟩,
     ⟨2, "options", .message .oneofOptions, .optional⟩]
  | .enum =>
    [⟨1, "name", .string, .optional⟩,
     ⟨2, "value", .message .enumValue, .repeated⟩,
     ⟨3, "options", .message .enumOptions, .optional⟩,
     ⟨4, "reserved_range", .message .enumReservedRange, .repeated⟩,
     ⟨5, "reserved_name", .string, .repeated⟩,
     ⟨6, "visibility", .enumeration .symbolVisibility, .optional⟩]
  | .enumReservedRange =>
    [⟨1, "start", .int32, .optional⟩,
     ⟨2, "end", .int32, .optional⟩]
  | .enumValue =>
    [⟨1, "name", .string, .optional⟩,
     ⟨2, "number", .int32, .optional⟩,
     ⟨3, "options", .message .enumValueOptions, .optional⟩]
  | .service =>
    [⟨1, "name", .string, .optional⟩,
     ⟨2, "method", .message .method, .repeated⟩,
     ⟨3, "options", .message .serviceOptions, .optional⟩]
  | .method =>
    [⟨1, "name", .string, .optional⟩,
     ⟨2, "input_type", .string, .optional⟩,
     ⟨3, "output_type", .string, .optional⟩,
     ⟨4, "options", .message .methodOptions, .optional⟩,
     ⟨5, "client_streaming", .bool, .optional⟩,
     ⟨6, "server_streaming", .bool, .optional⟩]
  | .fileOptions =>
    [⟨1, "java_package", .string, .optional⟩,
     ⟨8, "java_outer_classname", .string, .optional⟩,
     ⟨9, "optimize_for", .enumeration .optimizeMode, .optional⟩,
     ⟨10, "java_multiple_files", .bool, .optional⟩,
     ⟨11, "go_package", .string, .optional⟩,
     ⟨16, "cc_generic_services", .bool, .optional⟩,
     ⟨17, "java_generic_services", .bool, .optional⟩,
     ⟨18, "py_generic_services", .bool, .optional⟩,
     ⟨20, "java_generate_equals_and_hash", .bool, .optional⟩,
     ⟨23, "deprecated", .bool, .optional⟩,
     ⟨27, "java_string_check_utf8", .bool, .optional⟩,
     ⟨31, "cc_enable_arenas", .bool, .optional⟩,
     ⟨36, "objc_class_prefix", .string, .optional⟩,
     ⟨37, "csharp_namespace", .string, .optional⟩,
     ⟨39, "swift_prefix", .string, .optional⟩,
     ⟨40, "php_class_prefix", .string, .optional⟩,
     ⟨41, "php_namespace", .string, .optional⟩,
     ⟨44, "php_metadata_namespace", .string, .optional⟩,
     ⟨45, "ruby_package", .string, .optional⟩,
     ⟨50, "features", .message .featureSet, .optional⟩,
     ⟨999, "uninterpreted_option", .message .uninterpretedOption, .repeated⟩]
  | .messageOptions =>
    [⟨1, "message_set_wire_format", .bool, .optional⟩,
     ⟨2, "no_standard_descriptor_accessor", .bool, .optional⟩,
     ⟨3, "deprecated", .bool, .optional⟩,
     ⟨7, "map_entry", .bool, .optional⟩,
     ⟨11, "deprecated_legacy_json_field_conflicts", .bool, .optional⟩,
     ⟨12, "features", .message .featureSet, .optional⟩,
     ⟨999, "uninterpreted_option", .message .uninterpretedOption, .repeated⟩]
  | .fieldOptions =>
    [⟨1, "ctype", .enumeration .stringType, .optional⟩,
     ⟨2, "packed", .bool, .optional⟩,
     ⟨3, "deprecated", .bool, .optional⟩,
     ⟨5, "lazy", .bool, .optional⟩,
     ⟨6, "jstype", .enumeration .numberType, .optional⟩,
     ⟨10, "weak", .bool, .optional⟩,
     ⟨15, "unverified_lazy", .bool, .optional⟩,
     ⟨16, "debug_redact", .bool, .optional⟩,
     ⟨17, "retention", .enumeration .optionRetention, .optional⟩,
     ⟨19, "targets", .enumeration .optionTarget, .repeated⟩,
     ⟨20, "edition_defaults", .message .editionDefault, .repeated⟩,
     ⟨21, "features", .message .featureSet, .optional⟩,
     ⟨22, "feature_support", .message .featureSupport, .optional⟩,
     ⟨999, "uninterpreted_option", .message .uninterpretedOption, .repeated⟩]
  | .editionDefault =>
    [⟨2, "value", .string, .optional⟩,
     ⟨3, "edition", .enumeration .edition, .optional⟩]
  | .featureSupport =>
    [⟨1, "edition_introduced", .enumeration .edition, .optional⟩,
     ⟨2, "edition_deprecated", .enumeration .edition, .optional⟩,
     ⟨3, "deprecation_warning", .string, .optional⟩,
     ⟨4, "edition_removed", .enumeration .edition, .optional⟩,
     ⟨5, "removal_error", .string, .optional⟩]
  | .oneofOptions =>
    [⟨1, "features", .message .featureSet, .optional⟩,
     ⟨999, "uninterpreted_option", .message .uninterpretedOption, .repeated⟩]
  | .enumOptions =>
    [⟨2, "allow_alias", .bool, .optional⟩,
     ⟨3, "deprecated", .bool, .optional⟩,
     ⟨6, "deprecated_legacy_json_field_conflicts", .bool, .optional⟩,
     ⟨7, "features", .message .featureSet, .optional⟩,
     ⟨999, "uninterpreted_option", .message .uninterpretedOption, .repeated⟩]
  | .enumValueOptions =>
    [⟨1, "deprecated", .bool, .optional⟩,
     ⟨2, "features", .message .featureSet, .optional⟩,
     ⟨3, "debug_redact", .bool, .optional⟩,
     ⟨4, "feature_support", .message .featureSupport, .optional⟩,
     ⟨999, "uninterpreted_option", .message .uninterpretedOption, .repeated⟩]
  | .serviceOptions =>
    [⟨33, "deprecated", .bool, .optional⟩,
     ⟨34, "features", .message .featureSet, .optional⟩,
     ⟨999, "uninterpreted_option", .message .uninterpretedOption, .repeated⟩]
  | .methodOptions =>
    [⟨33, "deprecated", .bool, .optional⟩,
     ⟨34, "idempotency_level", .enumeration .idempotencyLevel, .optional⟩,
     ⟨35, "features", .message .featureSet, .optional⟩,
     ⟨999, "uninterpreted_option", .message .uninterpretedOption, .repeated⟩]
  | .uninterpretedOption =>
    [⟨2, "name", .message .namePart, .repeated⟩,
     ⟨3, "identifier_value", .string, .optional⟩,
     ⟨4, "positive_int_value", .uint64, .optional⟩,
     ⟨5, "negative_int_value", .int64, .optional⟩,
     ⟨6, "double_value", .double, .optional⟩,
     ⟨7, "string_value", .bytes, .optional⟩,
     ⟨8, "aggregate_value", .string, .optional⟩]
  | .namePart =>
    [⟨1, "name_part", .string, .required⟩,
     ⟨2, "is_extension", .bool, .required⟩]
  | .featureSet =>
    [⟨1, "field_presence", .enumeration .fieldPresence, .optional⟩,
     ⟨2, "enum_type", .enumeration .enumOpenness, .optional⟩,
     ⟨3, "repeated_field_encoding", .enumeration .repeatedFieldEncoding, .optional⟩,
     ⟨4, "utf8_validation", .enumeration .utf8Validation, .optional⟩,
     ⟨5, "message_encoding", .enumeration .messageEncoding, .optional⟩,
     ⟨6, "json_format", .enumeration .jsonFormat, .optional⟩,
     ⟨7, "enforce_naming_style", .enumeration .namingStyle, .optional⟩,
     ⟨8, "default_symbol_visibility", .enumeration .defaultVisibility, .optional⟩,
     ⟨9, "enforce_proto_limits", .enumeration .protoLimits, .optional⟩]
  | .sourceCodeInfo =>
    [⟨1, "location", .message .location, .repeated⟩]
  | .location =>
    [⟨1, "path", .int32, .packed⟩,
     ⟨2, "span", .int32, .packed⟩,
     ⟨3, "leading_comments", .string, .optional⟩,
     ⟨4, "trailing_comments", .string, .optional⟩,
     ⟨6, "leading_detached_comments", .string, .repeated⟩]

/-- The field of a message type with a number. -/
def MessageType.field? (type : MessageType) (number : Nat) : Option FieldSpec :=
  type.fields.find? (·.number == number)

/-- Whether a message type declares a field with a number. -/
def MessageType.declares (type : MessageType) (number : Nat) : Bool :=
  type.fields.any (·.number == number)

theorem MessageType.field?_eq_none_iff {type : MessageType} {number : Nat} :
    type.field? number = none ↔ type.declares number = false := by
  simp [field?, declares, List.find?_eq_none]

end SchemaDoc.Descriptor
