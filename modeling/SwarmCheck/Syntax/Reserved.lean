import SwarmCheck.Syntax.Node

/-!
# Reserved names

Names that belong to the reader of parse trees itself. No rule of the grammar has one of them, but
a parse tree may use one all the same, and then asks something of the reader. Most of these
requests are refused, some are answered with an object, and a few look at what the reader goes by
or change it. Every reserved name can also be looked at without being used.
-/

namespace SwarmCheck

set_option autoImplicit false

namespace Foreign

def ofKind (kind listing : String) : Foreign := ⟨kind, listing, "'" ++ kind ++ "' object"⟩

def reader : Foreign :=
  ofKind "AstTransformer" "<koord.dsl.ast.transformer.AstTransformer object>"

def readerClass : Foreign :=
  ⟨"ABCMeta", "<class 'koord.dsl.ast.transformer.AstTransformer'>",
    "type object 'AstTransformer'"⟩

def notImplemented : Foreign := ofKind "NotImplementedType" "NotImplemented"

def chain : Foreign := ofKind "TransformerChain" "<lark.visitors.TransformerChain object>"

def generator : Foreign :=
  ofKind "generator" "<generator object Transformer._transform_children>"

def markedRule : Foreign := ofKind "_VArgsWrapper" "<lark.visitors._VArgsWrapper object>"

def methodOf (holder owner name : String) : Foreign :=
  ⟨"method", "<bound method " ++ owner ++ "." ++ name ++ " of " ++ holder ++ ">",
    "'function' object"⟩

def method (owner name : String) : Foreign := methodOf reader.listing owner name

def classMethod (owner name : String) : Foreign := methodOf readerClass.listing owner name

def slot (name : String) : Foreign :=
  ofKind "method-wrapper" ("<method-wrapper '" ++ name ++ "' of AstTransformer object>")

def builtIn (holder name : String) : Foreign :=
  ofKind "builtin_function_or_method"
    ("<built-in method " ++ name ++ " of " ++ holder ++ " object>")

end Foreign

/-- What a rule or a token with a reserved name asks of the reader. -/
inductive Request where
  | refused
  /-- Set whether tokens are read by rules. -/
  | switch
  /-- Forget a setting. -/
  | clear
  /-- Look at what is behind a name. -/
  | inspect
  /-- Describe the reader in words. -/
  | describe
  /-- Bar the rules that go by their children alone. -/
  | bar
  | answer (found : Foreign)
  /-- Bundle the children. -/
  | bundle
  deriving DecidableEq, Repr

/-- What is seen behind a reserved name: always the same thing, the switch as it is set, or the
table that the settings are in. -/
inductive Sight where
  | always (found : Node)
  | switch
  | settings

structure Reserved where
  name : String
  request : Request
  sight : Sight

namespace Reserved

def seen (name : String) (request : Request) (found : Foreign) : Reserved :=
  ⟨name, request, .always (.stray (.object found))⟩

/-- The name of the setting that decides whether tokens are read by rules. -/
def switchName : String := "__visit_tokens__"

def settingsName : String := "__dict__"

/-- The one name that leaves a token what it is. -/
def plainName : String := "__default_token__"

def ofReader : List Reserved :=
  [("__default__", .refused), ("_group", .refused)].map fun (name, request) =>
    seen name request (.method "AstTransformer" name)

def ofWalk : List Reserved :=
  [("__init__", .switch), ("_call_userfunc", .refused), ("_call_userfunc_token", .bundle),
    ("_transform_children", .answer .generator), ("_transform_tree", .refused),
    ("transform", .bundle), ("__mul__", .answer .chain),
    (plainName, .bundle)].map fun (name, request) =>
      seen name request (.method "Transformer" name)

def ofClass : List Reserved :=
  [seen "_apply_v_args" .bar (.classMethod "_Decoratable" "_apply_v_args"),
    seen "__class_getitem__" (.answer .readerClass)
      (.classMethod "_Decoratable" "__class_getitem__"),
    seen "__init_subclass__" .refused (.classMethod "Generic" "__init_subclass__")]

def comparisons : List Reserved :=
  ["__eq__", "__ne__", "__lt__", "__le__", "__gt__", "__ge__"].map fun name =>
    seen name (.answer .notImplemented) (.slot name)

def slots : List Reserved :=
  [("__getattribute__", .inspect), ("__delattr__", .clear), ("__setattr__", .refused),
    ("__hash__", .refused), ("__repr__", .refused),
    ("__str__", .refused)].map fun (name, request) => seen name request (.slot name)

def builtIns : List Reserved :=
  ([("__format__", .describe), ("__dir__", .refused), ("__getstate__", .refused),
    ("__reduce__", .refused), ("__reduce_ex__", .refused),
    ("__sizeof__", .refused)].map fun (name, request) =>
      seen name request (.builtIn "AstTransformer" name)) ++
  [seen "__new__" .refused (.builtIn "type" "__new__"),
    seen "__subclasshook__" (.answer .notImplemented) (.builtIn "ABCMeta" "__subclasshook__")]

def values : List Reserved :=
  [seen "__class__" (.answer .reader) .readerClass,
    seen "__abstractmethods__" .refused (.ofKind "frozenset" "frozenset()"),
    seen "__orig_bases__" .refused
      (.ofKind "tuple" ("(<class 'lark.visitors._Decoratable'>, <class 'abc.ABC'>, " ++
        "typing.Generic[~_Leaf_T, ~_Return_T])")),
    ⟨"__parameters__", .refused, .always (.stray .empty)⟩,
    ⟨"__slots__", .refused, .always (.stray .empty)⟩,
    seen "_abc_impl" .refused
      ⟨"_abc_data", "<_abc._abc_data object>", "'_abc._abc_data' object"⟩,
    ⟨"__doc__", .refused,
      .always (.stray (.text "Transform a Koord Lark parse tree into AST nodes."))⟩,
    ⟨"__module__", .refused, .always (.stray (.text "koord.dsl.ast.transformer"))⟩,
    ⟨"__weakref__", .refused, .always .hole⟩,
    ⟨"_is_protocol", .refused, .always (.stray (.truth false))⟩,
    ⟨switchName, .refused, .switch⟩,
    ⟨settingsName, .refused, .settings⟩]

def all : List Reserved :=
  ofReader ++ ofWalk ++ ofClass ++ comparisons ++ slots ++ builtIns ++ values

def ofName? (name : String) : Option Reserved := all.find? (·.name == name)

end Reserved

end SwarmCheck
