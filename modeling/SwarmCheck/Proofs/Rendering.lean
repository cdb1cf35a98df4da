import SwarmCheck.Proofs.Reading
import SwarmCheck.Proofs.Sorts

/-!
# Rendering

A syntax tree can be written out as a parse tree, each node by the rule that makes such nodes. Rules
tell their children apart by shape alone: by whether a child is a token or a node, by the kind of a
token, by which node comes first or last. So it takes an argument that reading a rendered program
gives the program back, whatever its names and texts are. Rendering leaves open how operators are
spelled.
-/

namespace SwarmCheck

set_option autoImplicit false

/-- The kind of token that each operator is written as. It means nothing else to the reader. -/
structure Spelling where
  operatorKind : String → String
  plain : ∀ op, PlainKind (operatorKind op)
  notStructural : ∀ op, operatorKind op ∉ Item.structuralKinds
  notTruth : ∀ op, operatorKind op ∉ ["TRUE", "FALSE"]

namespace Rendering

def mark : Option Position → Mark
  | none => {}
  | some position => ⟨position.line, position.column, position.endLine, position.endColumn⟩

def token (kind text : String) : ParseTree := .token ⟨kind, text⟩

def tree (rule : String) (children : List ParseTree) (position : Option Position) : ParseTree :=
  .rule rule children (mark position)

def constantToken : ConstantKind → String
  | .float => "FNUM"
  | .int => "INUM"
  | .pid => "PID"
  | .numAgents => "NUMAGENTS"

def typeToken (typeName : String) (isRecord : Bool) : String :=
  if isRecord then "UPPER"
  else
    match typeName with
    | "int" => "INT"
    | "float" => "FLOAT"
    | "bool" => "BOOL"
    | "pos" => "POS"
    | "string" => "STRINGTYPE"
    | _ => "STREAM"

def groupRule : GroupKind → String
  | .sensors => "sensordecls"
  | .actuators => "actuatordecls"
  | .allRead => "allreadvars"
  | .allWrite => "allwritevars"
  | .locals => "localvars"

def dimension : ParseTree := tree "arraydec" [] none

def truthToken (op : String) : ParseTree := token (if op = "true" then "TRUE" else "FALSE") op

mutual

def render (spelling : Spelling) : Node → ParseTree
  | .constant kind text position parenthesised =>
      let literal := tree "constant" [token (constantToken kind) text] position
      let value := tree "aexpr" [literal] position
      if parenthesised then tree "aexpr" [token "LPAR" "(", value, token "RPAR" ")"] position
      else value
  | .stringLiteral value position =>
      tree "aexpr" [token "STRING" ("\"" ++ value ++ "\"")] position
  | .reference name index position =>
      tree "aexpr" (token "VARNAME" name :: if index.isHole then [] else [render spelling index])
        position
  | .call name args position =>
      tree "funccall" (token "VARNAME" name :: renderAll spelling args) position
  | .binary op left right position =>
      tree "aexpr"
        [render spelling left, token (spelling.operatorKind op) op, render spelling right] position
  | .logical op operands position =>
      if operands.isEmpty && (op = "true" || op = "false") then
        tree "bexpr" [truthToken op] position
      else
        tree "bexpr" (renderAll spelling operands ++ [token (spelling.operatorKind op) op]) position
  | .flag name position => tree "bexpr" [token "VARNAME" name] position
  | .assign target index value position =>
      tree "assign"
        (token "VARNAME" target :: (if index.isHole then [] else [render spelling index]) ++
          [token "ASGN" "=", render spelling value])
        position
  | .stream channel position =>
      tree "iostream" (channel.toList.map (token "VARNAME")) position
  | .conditional condition thenBody elseBody position =>
      tree "ifblock"
        (render spelling condition :: renderStatements spelling thenBody ++
          if elseBody.isEmpty then []
          else [tree "elseblock" (renderStatements spelling elseBody) none])
        position
  | .decl name typeName isRecord dims initial position =>
      tree "decl"
        (token (typeToken typeName isRecord) typeName ::
          (List.replicate dims.toNat dimension ++
            token "VARNAME" name ::
              if initial.isHole then [] else [token "ASGN" "=", render spelling initial]))
        position
  | .group kind decls position => tree (groupRule kind) (renderAll spelling decls) position
  | .moduleBlock name groups position =>
      tree "module" (token "UPPER" name :: renderAll spelling groups) position
  | .record name fields position =>
      tree "adtdef" (token "UPPER" name :: renderAll spelling fields) position
  | .event name precondition effects position =>
      tree "event"
        (token "VARNAME" name ::
          (if precondition.isHole then [] else [render spelling precondition]) ++
            renderStatements spelling effects)
        position
  | .program name items position =>
      tree "program" (token "VARNAME" name :: renderAll spelling items) position
  | .hole | .stray _ | .bundle .. | .otherwise _ => .placeholder

def renderAll (spelling : Spelling) : List Node → List ParseTree
  | [] => []
  | node :: rest => render spelling node :: renderAll spelling rest

def renderStatements (spelling : Spelling) : List Node → List ParseTree
  | [] => []
  | node :: rest => tree "stmt" [render spelling node] none :: renderStatements spelling rest

end

end Rendering

/-- What rendering asks of a node besides its sort: its position has a line, a declaration has a
known type and no negative number of dimensions, and the precondition of an event is a
condition. -/
def Node.Renderable (node : Node) : Prop :=
  (∀ position, node.position = some position → position.line.isSome) ∧
    match node with
    | .decl _ typeName isRecord dims _ _ =>
        0 ≤ dims ∧ (isRecord = true ∨ typeName ∈ Ty.primitiveNames)
    | .event _ precondition _ _ => precondition = .hole ∨ precondition.isCondition = true
    | _ => True

namespace Rendering

theorem position_mark {position : Option Position}
    (lined : ∀ known, position = some known → known.line.isSome) :
    (mark position).position = position := by
  cases position with
  | none => rfl
  | some known =>
      obtain ⟨line, same⟩ := Option.isSome_iff_exists.mp (lined known rfl)
      obtain ⟨_, column, endLine, endColumn⟩ := known
      cases same
      rfl

theorem unquote_quoted (value : String) : Lowering.unquote ("\"" ++ value ++ "\"") = value := by
  have characters : ("\"" ++ value ++ "\"").toList = '"' :: (value.toList ++ ['"']) := by
    simp
  simp [Lowering.unquote, characters]

section Reading

open Lowering Item

variable {reader : Reader}

/-- Trees are read as items, one by one, and leave the reader as it was. -/
def ReadsAs (reader : Reader) (trees : List ParseTree) (items : List Item) : Prop :=
  reader.readAll trees = .ok (items, reader)

theorem readsAs_nil : ReadsAs reader [] [] := rfl

theorem readsAs_cons {tree : ParseTree} {item : Item} {rest : List ParseTree} {items : List Item}
    (first : reader.read tree = .ok (item, reader)) (later : ReadsAs reader rest items) :
    ReadsAs reader (tree :: rest) (item :: items) :=
  Reader.readAll_cons_eq_ok_iff.mpr ⟨item, reader, items, first, later, rfl⟩

theorem readsAs_token {kind : String} (plain : PlainKind kind) (text : String)
    {rest : List ParseTree} {items : List Item} (later : ReadsAs reader rest items) :
    ReadsAs reader (token kind text :: rest) (.token ⟨kind, text⟩ :: items) :=
  readsAs_cons (Reader.read_plain_token plain text) later

theorem readsAs_append {first second : List ParseTree} {items others : List Item}
    (firstRead : ReadsAs reader first items) (secondRead : ReadsAs reader second others) :
    ReadsAs reader (first ++ second) (items ++ others) :=
  Reader.readAll_append firstRead secondRead

theorem read_tree (unbarred : reader.barred = false) {rule : Rule} {name : String}
    (named : Rule.ofName? name = some rule) {children : List ParseTree} {items : List Item}
    {item : Item} {position : Option Position} (inner : ReadsAs reader children items)
    (made : rule.read reader.list (mark position) items = .ok item) :
    reader.read (tree name children position) = .ok (item, reader) := by
  apply Reader.read_rule_eq_ok_iff.mpr
  have free : reader.bars rule = false := by rw [Reader.bars, unbarred, Bool.false_and]
  exact ⟨items, reader, inner, Reader.readRule_eq_ok_iff.mpr (.inl ⟨rule, named, free, made, rfl⟩)⟩

theorem readsAs_renderAll {spelling : Spelling} {nodes : List Node}
    (each : ∀ node ∈ nodes, reader.read (render spelling node) = .ok (.node node, reader)) :
    ReadsAs reader (renderAll spelling nodes) (nodes.map .node) := by
  induction nodes with
  | nil => exact readsAs_nil
  | cons node rest ih =>
      exact readsAs_cons (each node (by simp))
        (ih fun other member => each other (by simp [member]))

section Expressions

variable {spelling : Spelling} (unbarred : reader.barred = false) {position : Option Position}
  (lined : (mark position).position = position)

include unbarred lined

theorem read_constant (kind : ConstantKind) (text : String) (parenthesised : Bool) :
    reader.read (render spelling (.constant kind text position parenthesised)) =
      .ok (.node (.constant kind text position parenthesised), reader) := by
  have plain : PlainKind (constantToken kind) := by cases kind <;> decide
  have literal : reader.read (tree "constant" [token (constantToken kind) text] position) =
      .ok (.node (.constant kind text position false), reader) := by
    apply read_tree unbarred rfl (readsAs_token plain text readsAs_nil)
    cases kind <;>
      simp [Rule.read, readConstant, constantTokens, constantToken, lined, Except.map,
        List.lookup_cons]
  have value : reader.read
      (tree "aexpr" [tree "constant" [token (constantToken kind) text] position] position) =
        .ok (.node (.constant kind text position false), reader) := by
    apply read_tree unbarred rfl (readsAs_cons literal readsAs_nil)
    simp [Rule.read, readValue, firstText?, firstToken?, opensParenthesis, Except.map]
  cases parenthesised with
  | false => exact value
  | true =>
      have enclosed := @readsAs_token reader "LPAR" (by decide) "(" _ _
        (readsAs_cons value (readsAs_token (by decide : PlainKind "RPAR") ")" readsAs_nil))
      apply read_tree unbarred rfl enclosed
      simp [Rule.read, readValue, firstText?, firstToken?, opensParenthesis, Except.map,
        Node.parenthesise]

theorem read_stringLiteral (value : String) :
    reader.read (render spelling (.stringLiteral value position)) =
      .ok (.node (.stringLiteral value position), reader) := by
  apply read_tree unbarred rfl (readsAs_token (by decide) _ readsAs_nil)
  simp [Rule.read, readValue, firstText?, firstToken?, Except.map, unquote_quoted, lined]

theorem read_reference (name : String) {index : Node} (absent : index.isHole = true) :
    reader.read (render spelling (.reference name index position)) =
      .ok (.node (.reference name index position), reader) := by
  rw [Node.isHole_iff] at absent
  subst absent
  apply read_tree unbarred rfl (readsAs_token (by decide) _ readsAs_nil)
  simp [Rule.read, readValue, firstText?, firstToken?, Except.map, lined]

theorem read_element (name : String) {index : Node} (present : index.isHole = false)
    (inner : reader.read (render spelling index) = .ok (.node index, reader)) :
    reader.read (render spelling (.reference name index position)) =
      .ok (.node (.reference name index position), reader) := by
  have items := @readsAs_token reader "VARNAME" (by decide) name _ _
    (readsAs_cons inner readsAs_nil)
  simp only [render, present]
  apply read_tree unbarred rfl items
  simp [Rule.read, readValue, firstText?, firstToken?, Except.map, lined]

theorem read_call (name : String) {args : List Node}
    (inner : ∀ arg ∈ args, reader.read (render spelling arg) = .ok (.node arg, reader)) :
    reader.read (render spelling (.call name args position)) =
      .ok (.node (.call name args position), reader) := by
  have items := @readsAs_token reader "VARNAME" (by decide) name _ _ (readsAs_renderAll inner)
  rw [render]
  apply read_tree unbarred rfl items
  simp [Rule.read, readCall, nameOrBlank, firstText?, firstToken?, lined]

theorem read_binary (op : String) {left right : Node}
    (leftRead : reader.read (render spelling left) = .ok (.node left, reader))
    (rightRead : reader.read (render spelling right) = .ok (.node right, reader)) :
    reader.read (render spelling (.binary op left right position)) =
      .ok (.node (.binary op left right position), reader) := by
  have items := readsAs_cons leftRead
    (readsAs_token (spelling.plain op) op (readsAs_cons rightRead readsAs_nil))
  rw [render]
  apply read_tree unbarred rfl items
  simp [Rule.read, readValue, operator?, spelling.notStructural op, Except.map, lined]

theorem read_flag (name : String) :
    reader.read (render spelling (.flag name position)) =
      .ok (.node (.flag name position), reader) := by
  apply read_tree unbarred rfl (readsAs_token (by decide) _ readsAs_nil)
  simp [Rule.read, readCondition, firstText?, firstToken?, lined]

theorem read_truth {op : String} (truth : op = "true" ∨ op = "false") :
    reader.read (tree "bexpr" [truthToken op] position) =
      .ok (.node (.logical op [] position), reader) := by
  have lowerTrue : Text.lower "true" = "true" := by decide
  have lowerFalse : Text.lower "false" = "false" := by decide
  rcases truth with rfl | rfl
  · apply read_tree unbarred rfl (readsAs_token (by decide) _ readsAs_nil)
    simp [Rule.read, readCondition, firstText?, firstToken?, lowerTrue, lined]
  · apply read_tree unbarred rfl (readsAs_token (by decide) _ readsAs_nil)
    simp [Rule.read, readCondition, firstText?, firstToken?, lowerFalse, lined]

theorem read_operation (op : String) {operands : List Node}
    (inner : ∀ operand ∈ operands,
      reader.read (render spelling operand) = .ok (.node operand, reader)) :
    reader.read
        (tree "bexpr" (renderAll spelling operands ++ [token (spelling.operatorKind op) op])
          position) =
      .ok (.node (.logical op operands position), reader) := by
  have items := readsAs_append (readsAs_renderAll inner)
    (readsAs_token (spelling.plain op) op readsAs_nil)
  have notName : ¬spelling.operatorKind op = "VARNAME" := by
    intro same
    exact spelling.notStructural op (by rw [same]; decide)
  obtain ⟨notTrue, notFalse⟩ :
      ¬spelling.operatorKind op = "TRUE" ∧ ¬spelling.operatorKind op = "FALSE" := by
    simpa using spelling.notTruth op
  apply read_tree unbarred rfl items
  cases operands with
  | nil =>
      simp [Rule.read, readCondition, readOperation, firstText?, firstToken?, operator?,
        spelling.notStructural op, notName, notTrue, notFalse, lined]
  | cons first rest =>
      simp [Rule.read, readCondition, readOperation, operator?, spelling.notStructural op, lined]

theorem read_logical (op : String) {operands : List Node}
    (inner : ∀ operand ∈ operands,
      reader.read (render spelling operand) = .ok (.node operand, reader)) :
    reader.read (render spelling (.logical op operands position)) =
      .ok (.node (.logical op operands position), reader) := by
  rw [render]
  split
  · rename_i truth
    rw [Bool.and_eq_true, List.isEmpty_iff, Bool.or_eq_true, decide_eq_true_iff,
      decide_eq_true_iff] at truth
    rw [truth.1]
    exact read_truth unbarred lined truth.2
  · exact read_operation unbarred lined op inner

end Expressions

section Sorts

variable {spelling : Spelling} (unbarred : reader.barred = false) {node : Node}

include unbarred

theorem read_expression (sorted : Expression node)
    (renderable : ∀ inner ∈ node.preorder, inner.Renderable) :
    reader.read (render spelling node) = .ok (.node node, reader) := by
  induction sorted with
  | constant kind text position parenthesised =>
      rw [Node.preorder, List.forall_mem_singleton] at renderable
      exact read_constant unbarred (position_mark renderable.1) kind text parenthesised
  | stringLiteral value position =>
      rw [Node.preorder, List.forall_mem_singleton] at renderable
      exact read_stringLiteral unbarred (position_mark renderable.1) value
  | reference name position =>
      rw [Node.preorder, List.forall_mem_cons] at renderable
      exact read_reference unbarred (position_mark renderable.1.1) name rfl
  | element name position sortedIndex ih =>
      rw [Node.preorder, List.forall_mem_cons] at renderable
      exact read_element unbarred (position_mark renderable.1.1) name sortedIndex.not_hole
        (ih renderable.2)
  | call name position sortedArgs ih =>
      rw [Node.preorder, List.forall_mem_cons, Node.forall_mem_preorderIn] at renderable
      exact read_call unbarred (position_mark renderable.1.1) name fun arg member =>
        ih arg member (renderable.2 arg member (sortedArgs arg member).not_blank)
  | binary op position sortedLeft sortedRight leftIh rightIh =>
      rw [Node.preorder, List.forall_mem_cons, List.forall_mem_append] at renderable
      exact read_binary unbarred (position_mark renderable.1.1) op (leftIh renderable.2.1)
        (rightIh renderable.2.2)
  | logical op position sortedOperands ih =>
      rw [Node.preorder, List.forall_mem_cons, Node.forall_mem_preorderIn] at renderable
      exact read_logical unbarred (position_mark renderable.1.1) op fun operand member =>
        ih operand member (renderable.2 operand member (sortedOperands operand member).not_blank)
  | flag name position =>
      rw [Node.preorder, List.forall_mem_singleton] at renderable
      exact read_flag unbarred (position_mark renderable.1) name

theorem readsAs_optional (sorted : OptionalExpression node)
    (renderable : ∀ inner ∈ node.preorder, inner.Renderable) :
    ReadsAs reader (if node.isHole then [] else [render spelling node])
      (if node.isHole then [] else [.node node]) := by
  rcases sorted with empty | sorted
  · rw [empty]
    exact readsAs_nil
  · rw [sorted.not_hole]
    exact readsAs_cons (read_expression unbarred sorted renderable) readsAs_nil

theorem readsAs_renderStatements {nodes : List Node}
    (each : ∀ node ∈ nodes, reader.read (render spelling node) = .ok (.node node, reader)) :
    ReadsAs reader (renderStatements spelling nodes) (nodes.map .node) := by
  induction nodes with
  | nil => exact readsAs_nil
  | cons node rest ih =>
      have wrapped : reader.read (tree "stmt" [render spelling node] none) =
          .ok (.node node, reader) := by
        apply read_tree unbarred rfl (readsAs_cons (each node (by simp)) readsAs_nil)
        simp [Rule.read, readStatement, Except.map]
      exact readsAs_cons wrapped (ih fun other member => each other (by simp [member]))

theorem read_assign {target : String} {index value : Node} {position : Option Position}
    (lined : (mark position).position = position)
    (indexRead : ReadsAs reader (if index.isHole then [] else [render spelling index])
      (if index.isHole then [] else [.node index]))
    (valueRead : reader.read (render spelling value) = .ok (.node value, reader)) :
    reader.read (render spelling (.assign target index value position)) =
      .ok (.node (.assign target index value position), reader) := by
  have items := @readsAs_token reader "VARNAME" (by decide) target _ _
    (readsAs_append indexRead
      (readsAs_token (by decide : PlainKind "ASGN") "=" (readsAs_cons valueRead readsAs_nil)))
  rw [render]
  apply read_tree unbarred rfl items
  cases empty : index.isHole with
  | true =>
      simp [Rule.read, readAssign, firstText?, firstToken?, Except.map, lined,
        Node.isHole_iff.mp empty]
  | false => simp [Rule.read, readAssign, firstText?, firstToken?, Except.map, lined]

theorem read_stream (channel : Option String) {position : Option Position}
    (lined : (mark position).position = position) :
    reader.read (render spelling (.stream channel position)) =
      .ok (.node (.stream channel position), reader) := by
  cases channel with
  | none =>
      apply read_tree unbarred rfl readsAs_nil
      simp [Rule.read, readStream, firstText?, firstToken?, lined]
  | some name =>
      apply read_tree unbarred rfl (readsAs_token (by decide) name readsAs_nil)
      simp [Rule.read, readStream, firstText?, firstToken?, lined]

theorem read_conditional {condition : Node} {thenBody elseBody : List Node}
    {position : Option Position} (lined : (mark position).position = position)
    (conditionRead : reader.read (render spelling condition) = .ok (.node condition, reader))
    (thenRead : ReadsAs reader (renderStatements spelling thenBody) (thenBody.map .node))
    (elseRead : ReadsAs reader (renderStatements spelling elseBody) (elseBody.map .node)) :
    reader.read (render spelling (.conditional condition thenBody elseBody position)) =
      .ok (.node (.conditional condition thenBody elseBody position), reader) := by
  rw [render]
  cases elseBody with
  | nil =>
      have items := readsAs_cons conditionRead (readsAs_append thenRead readsAs_nil)
      have noElse := elseStatements_of_nodes (condition :: thenBody)
      rw [List.map_cons] at noElse
      apply read_tree unbarred rfl items
      simp [Rule.read, readConditional, noElse, Except.map, lined]
  | cons first rest =>
      have block : reader.read (tree "elseblock" (renderStatements spelling (first :: rest)) none) =
          .ok (.otherwise (first :: rest), reader) := by
        apply read_tree unbarred rfl elseRead
        simp [Rule.read]
      have items := readsAs_cons conditionRead
        (readsAs_append thenRead (readsAs_cons block readsAs_nil))
      have branch := elseStatements_append_otherwise (.node condition :: thenBody.map .node)
        (first :: rest)
      rw [List.cons_append] at branch
      apply read_tree unbarred rfl items
      simp [Rule.read, readConditional, branch, Except.map, lined]

theorem read_statement (sorted : Statement node)
    (renderable : ∀ inner ∈ node.preorder, inner.Renderable) :
    reader.read (render spelling node) = .ok (.node node, reader) := by
  induction sorted with
  | call name position sortedArgs =>
      exact read_expression unbarred (.call name position sortedArgs) renderable
  | assign target position sortedIndex sortedValue =>
      rw [Node.preorder, List.forall_mem_cons, List.forall_mem_append] at renderable
      exact read_assign unbarred (position_mark renderable.1.1)
        (readsAs_optional unbarred sortedIndex renderable.2.1)
        (read_expression unbarred sortedValue renderable.2.2)
  | stream channel position =>
      rw [Node.preorder, List.forall_mem_singleton] at renderable
      exact read_stream unbarred channel (position_mark renderable.1)
  | conditional position sortedCondition sortedThen sortedElse thenIh elseIh =>
      rw [Node.preorder, List.forall_mem_cons, List.forall_mem_append, List.forall_mem_append,
        Node.forall_mem_preorderIn, Node.forall_mem_preorderIn] at renderable
      obtain ⟨own, inCondition, inThen, inElse⟩ := renderable
      apply read_conditional unbarred (position_mark own.1)
      · exact read_expression unbarred sortedCondition inCondition
      · exact readsAs_renderStatements unbarred fun statement member =>
          thenIh statement member (inThen statement member (sortedThen statement member).not_blank)
      · exact readsAs_renderStatements unbarred fun statement member =>
          elseIh statement member (inElse statement member (sortedElse statement member).not_blank)

theorem readsAs_dimensions (count : Nat) :
    ReadsAs reader (List.replicate count dimension) (List.replicate count .dimension) := by
  have single : reader.read dimension = .ok (.dimension, reader) :=
    read_tree unbarred rfl readsAs_nil rfl
  induction count with
  | zero => exact readsAs_nil
  | succ count ih =>
      rw [List.replicate_succ, List.replicate_succ]
      exact readsAs_cons single ih

omit unbarred in
theorem plain_typeToken (typeName : String) (isRecord : Bool) :
    PlainKind (typeToken typeName isRecord) ∧ typeToken typeName isRecord ≠ "VARNAME" := by
  unfold typeToken
  split
  · decide
  · split <;> decide

omit unbarred in
theorem primitive_typeToken {typeName : String} (known : typeName ∈ Ty.primitiveNames) :
    primitiveTokens.lookup (typeToken typeName false) = some typeName ∧
      typeToken typeName false ≠ "UPPER" := by
  simp only [Ty.primitiveNames, List.mem_cons, List.not_mem_nil, or_false] at known
  rcases known with rfl | rfl | rfl | rfl | rfl | rfl <;> decide

omit unbarred in
theorem readTypeName_of_token {typeName : String} {isRecord : Bool} {rest : List Item}
    (known : isRecord = true ∨ typeName ∈ Ty.primitiveNames)
    (unnamed : ∀ other ∈ tokens rest, other.kind ≠ "UPPER") :
    readTypeName (.token ⟨typeToken typeName isRecord, typeName⟩ :: rest) =
      .ok (typeName, isRecord) := by
  rw [readTypeName, firstText?, firstToken?, tokens_token_cons]
  cases isRecord with
  | true => simp [typeToken]
  | false =>
      obtain ⟨primitive, notRecord⟩ := primitive_typeToken (known.resolve_left (by decide))
      have noRecord : (⟨typeToken typeName false, typeName⟩ :: tokens rest : List Token).find?
          (["UPPER"].contains ·.kind) = none := by
        rw [List.find?_eq_none, List.forall_mem_cons]
        refine ⟨by simpa using notRecord, fun other member => ?_⟩
        simpa using unnamed other member
      rw [noRecord]
      simp [primitive]

omit unbarred in
theorem readDecl_of_parts {name typeName : String} {isRecord : Bool} {count : Nat}
    {value : List Item} (known : isRecord = true ∨ typeName ∈ Ty.primitiveNames)
    (unnamed : ∀ other ∈ tokens value, other.kind ≠ "UPPER")
    (flat : value.countP isDimension = 0) (noted : Mark) :
    readDecl noted
        (.token ⟨typeToken typeName isRecord, typeName⟩ ::
          (List.replicate count .dimension ++ .token ⟨"VARNAME", name⟩ :: value)) =
      .ok (.decl name typeName isRecord count ((nodes value).head?.getD .hole) noted.position) := by
  have notName := (plain_typeToken typeName isRecord).2
  have named : ∀ other ∈ tokens (List.replicate count .dimension ++
      .token ⟨"VARNAME", name⟩ :: value), other.kind ≠ "UPPER" := by
    simpa using unnamed
  have counted : (List.replicate count Item.dimension).countP isDimension = count := by
    simp [List.countP_replicate, isDimension]
  have others (entry : Token) : isDimension (.token entry) = false := rfl
  rw [readDecl, readTypeName_of_token known named]
  simp [firstText?, firstToken?, notName, others, counted, flat]

theorem read_decl {name typeName : String} {isRecord : Bool} {dims : Int} {initial : Node}
    {position : Option Position} (lined : (mark position).position = position)
    (natural : 0 ≤ dims) (known : isRecord = true ∨ typeName ∈ Ty.primitiveNames)
    (initialRead : initial.isHole = false →
      reader.read (render spelling initial) = .ok (.node initial, reader)) :
    reader.read (render spelling (.decl name typeName isRecord dims initial position)) =
      .ok (.node (.decl name typeName isRecord dims initial position), reader) := by
  have parts {values : List ParseTree} {value : List Item} (read : ReadsAs reader values value) :=
    readsAs_token (plain_typeToken typeName isRecord).1 typeName
      (readsAs_append (readsAs_dimensions unbarred dims.toNat)
        (readsAs_token (by decide : PlainKind "VARNAME") name read))
  rw [render]
  cases present : initial.isHole with
  | true =>
      apply read_tree unbarred rfl (parts readsAs_nil)
      rw [Rule.read, readDecl_of_parts known (by simp) (by simp), lined,
        Int.toNat_of_nonneg natural, Node.isHole_iff.mp present]
      rfl
  | false =>
      have value := readsAs_token (by decide : PlainKind "ASGN") "="
        (readsAs_cons (initialRead present) readsAs_nil)
      apply read_tree unbarred rfl (parts value)
      rw [Rule.read, readDecl_of_parts known (by simp) (by simp [isDimension]), lined,
        Int.toNat_of_nonneg natural]
      rfl

theorem read_variableDecl (sorted : VariableDecl node)
    (renderable : ∀ inner ∈ node.preorder, inner.Renderable) :
    reader.read (render spelling node) = .ok (.node node, reader) := by
  cases sorted with
  | decl name typeName isRecord dims position sortedInitial =>
      rw [Node.preorder, List.forall_mem_cons] at renderable
      obtain ⟨⟨lined, natural, known⟩, inInitial⟩ := renderable
      apply read_decl unbarred (position_mark lined) natural known
      intro present
      rcases sortedInitial with empty | sorted
      · rw [empty] at present
        cases present
      · exact read_expression unbarred sorted inInitial

theorem read_group (sorted : DeclGroup node)
    (renderable : ∀ inner ∈ node.preorder, inner.Renderable) :
    reader.read (render spelling node) = .ok (.node node, reader) := by
  cases sorted with
  | @group kind decls position sortedDecls =>
      rw [Node.preorder, List.forall_mem_cons, Node.forall_mem_preorderIn] at renderable
      have items := readsAs_renderAll fun entry member =>
        @read_variableDecl reader spelling unbarred entry (sortedDecls entry member)
          (renderable.2 entry member (sortedDecls entry member).not_blank)
      have kept : decls.filter Node.isDecl = decls := by
        rw [List.filter_eq_self]
        intro entry member
        cases sortedDecls entry member
        rfl
      have named : Rule.ofName? (groupRule kind) = some (.group kind) := by cases kind <;> rfl
      have lined : (mark position).position = position := position_mark renderable.1.1
      rw [render]
      apply read_tree unbarred named items
      simp [Rule.read, readGroup, kept, lined]

omit unbarred in
theorem readEvent_of_parts {name : String} {precondition : Node} {effects : List Node}
    (condition : precondition = .hole ∨ precondition.isCondition = true)
    (sortedEffects : ∀ effect ∈ effects, Statement effect) (noted : Mark) :
    readEvent noted
        (.token ⟨"VARNAME", name⟩ ::
          ((if precondition.isHole then [] else [.node precondition]) ++ effects.map .node)) =
      .event name precondition effects noted.position := by
  have named : nameOrBlank ["VARNAME", "UPPER"]
      (.token ⟨"VARNAME", name⟩ ::
        ((if precondition.isHole then [] else [.node precondition]) ++ effects.map .node)) =
      name := by
    simp [nameOrBlank, firstText?, firstToken?]
  rw [readEvent, named]
  rcases condition with rfl | condition
  · cases effects with
    | nil => rfl
    | cons first rest =>
        -- An effect that comes first is a statement, so it is not taken for a precondition.
        have plain : first.isCondition = false := by
          cases sortedEffects first (by simp) <;> rfl
        simp [Node.isHole, plain]
  · have present : precondition.isHole = false := by
      cases precondition <;> first | rfl | cases condition
    simp [present, condition]

theorem read_item (sorted : TopItem node)
    (renderable : ∀ inner ∈ node.preorder, inner.Renderable) :
    reader.read (render spelling node) = .ok (.node node, reader) := by
  cases sorted with
  | group sortedGroup => exact read_group unbarred sortedGroup renderable
  | @moduleBlock name groups position sortedGroups =>
      rw [Node.preorder, List.forall_mem_cons, Node.forall_mem_preorderIn] at renderable
      have items := readsAs_renderAll fun entry member =>
        @read_group reader spelling unbarred entry (sortedGroups entry member)
          (renderable.2 entry member (sortedGroups entry member).not_blank)
      have kept : groups.filter Node.isGroup = groups := by
        rw [List.filter_eq_self]
        intro entry member
        cases sortedGroups entry member
        rfl
      have lined : (mark position).position = position := position_mark renderable.1.1
      rw [render]
      apply read_tree unbarred rfl (readsAs_token (by decide) name items)
      simp [Rule.read, readModule, firstText?, firstToken?, kept, Except.map, lined]
  | @record name fields position sortedFields =>
      rw [Node.preorder, List.forall_mem_cons, Node.forall_mem_preorderIn] at renderable
      have items := readsAs_renderAll fun field member =>
        @read_variableDecl reader spelling unbarred field (sortedFields field member)
          (renderable.2 field member (sortedFields field member).not_blank)
      have kept : fields.filter Node.isDecl = fields := by
        rw [List.filter_eq_self]
        intro field member
        cases sortedFields field member
        rfl
      have lined : (mark position).position = position := position_mark renderable.1.1
      rw [render]
      apply read_tree unbarred rfl (readsAs_token (by decide) name items)
      simp [Rule.read, readRecord, firstText?, firstToken?, kept, Except.map, lined]
  | @event name precondition effects position sortedPrecondition sortedEffects =>
      rw [Node.preorder, List.forall_mem_cons, List.forall_mem_append,
        Node.forall_mem_preorderIn] at renderable
      obtain ⟨own, inPrecondition, inEffects⟩ := renderable
      have lined : (mark position).position = position := position_mark own.1
      have statements := readsAs_renderStatements unbarred fun effect member =>
        @read_statement reader spelling unbarred effect (sortedEffects effect member)
          (inEffects effect member (sortedEffects effect member).not_blank)
      have guard := @readsAs_optional reader spelling unbarred _ sortedPrecondition inPrecondition
      have items := @readsAs_token reader "VARNAME" (by decide) name _ _
        (readsAs_append guard statements)
      rw [render]
      apply read_tree unbarred rfl items
      rw [Rule.read, readEvent_of_parts own.2 sortedEffects, lined]

theorem read_program (sorted : WellSorted node)
    (renderable : ∀ inner ∈ node.preorder, inner.Renderable) :
    reader.read (render spelling node) = .ok (.node node, reader) := by
  cases sorted with
  | @program name items position sortedItems =>
      rw [Node.preorder, List.forall_mem_cons, Node.forall_mem_preorderIn] at renderable
      have inner := readsAs_renderAll fun item member =>
        @read_item reader spelling unbarred item (sortedItems item member)
          (renderable.2 item member (sortedItems item member).not_blank)
      have lined : (mark position).position = position := position_mark renderable.1.1
      rw [render]
      apply read_tree unbarred rfl (readsAs_token (by decide) name inner)
      simp [Rule.read, readProgram, nameOrBlank, firstText?, firstToken?, lined]

end Sorts

end Reading

end Rendering

/-- Reading undoes rendering: a well-sorted program, written out by any spelling of its operators,
is read as itself, with every name, text, position and pair of parentheses it had. -/
theorem lower_render (spelling : Spelling) {program : Node} (sorted : WellSorted program)
    (renderable : ∀ inner ∈ program.preorder, inner.Renderable) :
    (Rendering.render spelling program).lower = .ok (.node program) := by
  rw [ParseTree.lower, ParseTree.readFresh, Rendering.read_program rfl sorted renderable]
  rfl

def Spelling.uniform : Spelling where
  operatorKind _ := "OP"
  plain _ := by decide
  notStructural _ := by decide
  notTruth _ := by decide

/-- An event with a precondition that writes one element of an array, in one branch of an
`if` statement, next to a declaration of that array with an initial value. -/
def guardedWrite : Node :=
  .program "flock"
    [.group .allWrite
        [.decl "slots" "int" false 1 (.constant .int "0" none true)
          (some ⟨some 1, some 2, none, none⟩)]
        none,
      .event "claim" (.flag "ready" none)
        [.conditional (.logical "==" [.reference "turn" .hole none, .constant .pid "pid" none false]
            none)
          [.assign "slots" (.constant .pid "pid" none false)
            (.binary "+" (.stringLiteral "a\"b" none) (.call "next" [] none) none) none]
          [.stream none none] none]
        none]
    none

theorem lower_render_guardedWrite :
    (Rendering.render .uniform guardedWrite).lower = .ok (.node guardedWrite) := by
  apply lower_render .uniform
  · refine .program _ _ (List.forall_mem_cons.mpr ⟨.group (.group _ _ ?_),
      List.forall_mem_singleton.mpr (.event _ _ (.inr (.flag _ _))
        (List.forall_mem_singleton.mpr (.conditional _ ?_ ?_ ?_)))⟩)
    · exact List.forall_mem_singleton.mpr (.decl _ _ _ _ _ (.inr (.constant _ _ _ _)))
    · exact .logical _ _ (List.forall_mem_cons.mpr ⟨.reference _ _,
        List.forall_mem_singleton.mpr (.constant _ _ _ _)⟩)
    · exact List.forall_mem_singleton.mpr (.assign _ _ (.inr (.constant _ _ _ _))
        (.binary _ _ (.stringLiteral _ _) (.call _ _ (List.forall_mem_nil _))))
    · exact List.forall_mem_singleton.mpr (.stream _ _)
  · simp [guardedWrite, Node.preorder, Node.preorderIn, Node.isBlank, Node.Renderable,
      Node.position, Ty.primitiveNames, Node.isCondition]

end SwarmCheck
