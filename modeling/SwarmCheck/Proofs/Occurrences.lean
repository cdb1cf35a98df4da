import Mathlib.Data.List.Induction
import SwarmCheck.Proofs.Building

/-!
# First come, first served

Where a name can be declared more than once, its first occurrence counts and each later one is a
clash. First and later occurrences are told apart here in any list and for any notion of a name.
Then it is shown that a table into which declarations are entered one after another holds the first
occurrences and has a finding for each clash, in order, except that a policy may let a record type
be defined anew: then its last definition counts, and there is no finding. Which occurrence is the
first depends on the order; which names there are, and how often each is repeated, does not.
-/

namespace SwarmCheck

set_option autoImplicit false

section Occurrences

variable {α β κ : Type} [DecidableEq κ]

/-- What becomes of the entries of a list, each seen with all entries before it. -/
def flatMapAfter (result : List α → α → List β) : List α → List α → List β
  | _, [] => []
  | earlier, entry :: rest =>
      result earlier entry ++ flatMapAfter result (earlier ++ [entry]) rest

theorem flatMapAfter_append (result : List α → α → List β) (earlier first second : List α) :
    flatMapAfter result earlier (first ++ second) =
      flatMapAfter result earlier first ++ flatMapAfter result (earlier ++ first) second := by
  induction first generalizing earlier with
  | nil => simp [flatMapAfter]
  | cons entry rest ih => simp [flatMapAfter, ih]

theorem flatMapAfter_concat (result : List α → α → List β) (entries : List α) (last : α) :
    flatMapAfter result [] (entries ++ [last]) =
      flatMapAfter result [] entries ++ result entries last := by
  rw [flatMapAfter_append]
  simp [flatMapAfter]

theorem filterMap_flatMapAfter {γ : Type} {result : List α → α → List β} {choose : β → Option γ}
    {chosen : α → Option γ}
    (same : ∀ earlier entry, (result earlier entry).filterMap choose = (chosen entry).toList)
    (earlier entries : List α) :
    (flatMapAfter result earlier entries).filterMap choose = entries.filterMap chosen := by
  induction entries generalizing earlier with
  | nil => rfl
  | cons entry rest ih =>
      rw [flatMapAfter, List.filterMap_append, same, ih]
      cases found : chosen entry <;> simp [found]

/-- The first occurrence of each key. -/
def firsts (key : α → κ) (entries : List α) : List α :=
  flatMapAfter (fun earlier entry => if key entry ∈ earlier.map key then [] else [entry]) []
    entries

/-- All but the first occurrence of each key. -/
def repeats (key : α → κ) (entries : List α) : List α :=
  flatMapAfter (fun earlier entry => if key entry ∈ earlier.map key then [entry] else []) []
    entries

variable (key : α → κ)

theorem firsts_concat (entries : List α) (last : α) :
    firsts key (entries ++ [last]) =
      firsts key entries ++ if key last ∈ entries.map key then [] else [last] :=
  flatMapAfter_concat _ entries last

theorem repeats_concat (entries : List α) (last : α) :
    repeats key (entries ++ [last]) =
      repeats key entries ++ if key last ∈ entries.map key then [last] else [] :=
  flatMapAfter_concat _ entries last

theorem firsts_append_repeats_perm (entries : List α) :
    (firsts key entries ++ repeats key entries).Perm entries := by
  induction entries using List.reverseRecOn with
  | nil => exact .refl _
  | append_singleton entries last ih =>
      rw [firsts_concat, repeats_concat]
      split
      · rw [List.append_nil, ← List.append_assoc]
        exact ih.append_right [last]
      · rw [List.append_nil, List.append_assoc]
        have moved : (firsts key entries ++ ([last] ++ repeats key entries)).Perm
            (firsts key entries ++ (repeats key entries ++ [last])) :=
          List.perm_append_comm.append_left (firsts key entries)
        rw [← List.append_assoc _ (repeats key entries)] at moved
        exact moved.trans (ih.append_right [last])

theorem mem_map_firsts {entries : List α} {name : κ} :
    name ∈ (firsts key entries).map key ↔ name ∈ entries.map key := by
  induction entries using List.reverseRecOn with
  | nil => exact .rfl
  | append_singleton entries last ih =>
      rw [firsts_concat, List.map_append, List.mem_append, ih, List.map_append, List.mem_append]
      split
      · rename_i known
        simp only [List.map_nil, List.not_mem_nil, or_false, List.map_singleton,
          List.mem_singleton, iff_self_or]
        rintro rfl
        exact known
      · exact .rfl

theorem nodup_map_firsts (entries : List α) : ((firsts key entries).map key).Nodup := by
  induction entries using List.reverseRecOn with
  | nil => exact List.nodup_nil
  | append_singleton entries last ih =>
      rw [firsts_concat]
      split
      · rw [List.append_nil]
        exact ih
      · rename_i new
        rw [List.map_append, List.nodup_append]
        refine ⟨ih, by simp, ?_⟩
        intro name member other single
        rw [List.map_singleton, List.mem_singleton] at single
        rw [single]
        rintro rfl
        exact new ((mem_map_firsts key).mp member)

theorem repeats_eq_nil_iff (entries : List α) :
    repeats key entries = [] ↔ (entries.map key).Nodup := by
  induction entries using List.reverseRecOn with
  | nil => simp [repeats, flatMapAfter]
  | append_singleton entries last ih =>
      rw [repeats_concat, List.append_eq_nil_iff, ih, List.map_append, List.nodup_append]
      split
      · rename_i known
        simp only [List.cons_ne_nil, and_false, false_iff]
        rintro ⟨-, -, apart⟩
        exact apart _ known _ (by simp) rfl
      · rename_i new
        simp only [and_true, List.map_singleton, List.mem_singleton, iff_self_and]
        intro _
        refine ⟨by simp, ?_⟩
        rintro name member _ rfl rfl
        exact new member

section Reordering

variable {entries reordered : List α} (same : entries.Perm reordered)

include same

theorem firsts_perm : ((firsts key entries).map key).Perm ((firsts key reordered).map key) := by
  apply (List.perm_ext_iff_of_nodup (nodup_map_firsts key _) (nodup_map_firsts key _)).mpr
  intro name
  rw [mem_map_firsts, mem_map_firsts]
  exact (same.map key).mem_iff

theorem repeats_perm : ((repeats key entries).map key).Perm ((repeats key reordered).map key) := by
  have all (entries : List α) :
      ((firsts key entries).map key ++ (repeats key entries).map key).Perm (entries.map key) := by
    rw [← List.map_append]
    exact (firsts_append_repeats_perm key entries).map key
  have swapped := ((firsts_perm key same).append_right ((repeats key entries).map key)).symm
  have together := (swapped.trans ((all entries).trans (same.map key))).trans (all reordered).symm
  exact (List.perm_append_left_iff _).mp together

end Reordering

end Occurrences

namespace OrderedMap

variable {α : Type}

theorem eq_of_entries {left right : OrderedMap α} (same : left.entries = right.entries) :
    left = right := by
  obtain ⟨entries, distinct⟩ := left
  simp only at same
  subst same
  rfl

/-- Of several entries with one name the first counts. -/
def ofFirsts (entries : List (String × α)) : OrderedMap α :=
  ⟨firsts Prod.fst entries, nodup_map_firsts Prod.fst entries⟩

theorem contains_ofFirsts {entries : List (String × α)} {name : String} :
    (ofFirsts entries).contains name = true ↔ name ∈ entries.map Prod.fst :=
  contains_iff_mem_keys.trans (mem_map_firsts Prod.fst)

theorem entries_ofFirsts_concat (entries : List (String × α)) (last : String × α) :
    (ofFirsts (entries ++ [last])).entries =
      (ofFirsts entries).entries ++
        if (ofFirsts entries).contains last.1 then [] else [last] := by
  simp only [contains_ofFirsts]
  exact firsts_concat Prod.fst entries last

theorem ofFirsts_concat (entries : List (String × α)) (name : String) (value : α) :
    ofFirsts (entries ++ [(name, value)]) = (ofFirsts entries).insertNew name value := by
  apply eq_of_entries
  rw [entries_ofFirsts_concat, insertNew]
  cases taken : (ofFirsts entries).contains name with
  | true => simp
  | false => simp [entries_insert_of_new taken]

theorem get?_eq_some_iff {map : OrderedMap α} {name : String} {value : α} :
    map.get? name = some value ↔ (name, value) ∈ map.entries := by
  rw [get?, List.lookup_eq_some_iff]
  constructor
  · rintro ⟨before, after, split, _⟩
    rw [split]
    exact List.mem_append_right before List.mem_cons_self
  · intro member
    obtain ⟨before, after, split⟩ := List.append_of_mem member
    refine ⟨before, after, split, fun entry earlier => ?_⟩
    have distinct := map.distinct
    rw [split, List.map_append, List.nodup_append] at distinct
    rw [bne_iff_ne]
    exact Ne.symm (distinct.2.2 _ (List.mem_map_of_mem earlier) _ (by simp))

theorem get?_of_entries_perm {left right : OrderedMap α}
    (same : left.entries.Perm right.entries) (name : String) :
    left.get? name = right.get? name := by
  apply Option.ext
  intro value
  rw [get?_eq_some_iff, get?_eq_some_iff]
  exact same.mem_iff

theorem get?_ofFirsts_of_perm {entries reordered : List (String × α)}
    (same : entries.Perm reordered) (distinct : (entries.map Prod.fst).Nodup) (name : String) :
    (ofFirsts entries).get? name = (ofFirsts reordered).get? name := by
  have all {entries : List (String × α)} (distinct : (entries.map Prod.fst).Nodup) :
      (ofFirsts entries).entries.Perm entries := by
    have parts := firsts_append_repeats_perm Prod.fst entries
    rw [(repeats_eq_nil_iff Prod.fst entries).mpr distinct, List.append_nil] at parts
    exact parts
  have stillDistinct := ((same.map Prod.fst).nodup_iff).mp distinct
  exact get?_of_entries_perm (((all distinct).trans same).trans (all stillDistinct).symm) name

section Policies

/-- Sets the value of a name. If the name is taken, it keeps its value or gets the new one. -/
def keep (policy : RedefinitionPolicy) (map : OrderedMap α) (name : String) (value : α) :
    OrderedMap α :=
  match policy with
  | .reject => map.insertNew name value
  | .replace => map.insert name value

/-- Of several entries with one name the first counts, or the last in the place of the first. -/
def ofKept (policy : RedefinitionPolicy) (entries : List (String × α)) : OrderedMap α :=
  match policy with
  | .reject => ofFirsts entries
  | .replace => ofList entries

variable (entries : List (String × α)) (name : String)

theorem ofList_concat (value : α) :
    ofList (entries ++ [(name, value)]) = (ofList entries).insert name value := by
  rw [ofList, List.foldl_append]
  rfl

theorem ofKept_concat (policy : RedefinitionPolicy) (value : α) :
    ofKept policy (entries ++ [(name, value)]) =
      (ofKept policy entries).keep policy name value := by
  cases policy with
  | reject => exact ofFirsts_concat entries name value
  | replace => exact ofList_concat entries name value

theorem keys_ofList : (ofList entries).keys = (ofFirsts entries).keys := by
  induction entries using List.reverseRecOn with
  | nil => rfl
  | append_singleton entries last ih =>
      obtain ⟨name, value⟩ := last
      have same : (ofList entries).contains name = (ofFirsts entries).contains name := by
        rw [Bool.eq_iff_iff, contains_iff_mem_keys, contains_iff_mem_keys, ih]
      rw [ofList_concat, ofFirsts_concat, insertNew]
      cases taken : (ofFirsts entries).contains name with
      | true =>
          rw [keys_insert_of_known (same.trans taken), ih]
          rfl
      | false =>
          rw [if_neg Bool.false_ne_true, keys, keys, entries_insert_of_new (same.trans taken),
            entries_insert_of_new taken, List.map_append, List.map_append, ← keys, ← keys, ih]

theorem contains_ofKept {policy : RedefinitionPolicy} :
    (ofKept policy entries).contains name = true ↔ name ∈ entries.map Prod.fst := by
  rw [← contains_ofFirsts]
  cases policy with
  | reject => rfl
  | replace => rw [ofKept, contains_iff_mem_keys, contains_iff_mem_keys, keys_ofList]

theorem get?_ofFirsts :
    (ofFirsts entries).get? name = (entries.filter (·.1 = name)).head?.map Prod.snd := by
  induction entries using List.reverseRecOn with
  | nil => rfl
  | append_singleton entries last ih =>
      obtain ⟨other, value⟩ := last
      rw [ofFirsts_concat, get?_insertNew, List.filter_append, List.head?_append, ih]
      by_cases same : name = other
      · subst same
        rw [ih]
        cases (entries.filter (·.1 = name)).head? <;> simp
      · simp [same, Ne.symm same]

theorem get?_ofList :
    (ofList entries).get? name = (entries.filter (·.1 = name)).getLast?.map Prod.snd := by
  induction entries using List.reverseRecOn with
  | nil => rfl
  | append_singleton entries last ih =>
      obtain ⟨other, value⟩ := last
      rw [ofList_concat, get?_insert, List.filter_append, List.getLast?_append, ih]
      by_cases same : name = other
      · simp [same]
      · simp [same, Ne.symm same]

end Policies

end OrderedMap

namespace Declaration

def label : Declaration → String
  | symbol declared => declared.name
  | repeatedField within field _ => within ++ "." ++ field
  | record name _ _ => name

def site : Declaration → Node
  | symbol declared => declared.definedAt
  | repeatedField _ _ site => site
  | record _ _ site => site

def finding (declaration : Declaration) : Finding :=
  .redeclared declaration.label declaration.site

def symbolEntries (declared : List Declaration) : List (String × Symbol) :=
  (declared.filterMap symbol?).map fun symbol => (symbol.name, symbol)

def recordEntries (declared : List Declaration) : List (String × Fields) :=
  declared.filterMap record?

/-- Whether a declaration comes too late, after others. -/
def clashes (earlier : List Declaration) : Declaration → Bool
  | symbol declared => declared.name ∈ (symbolEntries earlier).map Prod.fst
  | repeatedField .. => true
  | record name _ _ => name ∈ (recordEntries earlier).map Prod.fst

def clashing (declared : List Declaration) : List Declaration :=
  flatMapAfter
    (fun earlier declaration => if declaration.clashes earlier then [declaration] else []) []
    declared

/-- Whether a declaration that comes too late is reported. A definition of a record is not, if it
replaces the one before it. -/
def isReported (policy : RedefinitionPolicy) (declaration : Declaration) : Bool :=
  policy = .reject || declaration.record?.isNone

theorem filter_isReported_reject (declared : List Declaration) :
    declared.filter (isReported .reject) = declared := by
  rw [List.filter_eq_self]
  intro _ _
  rfl

section Concat

variable (declared : List Declaration) (last : Declaration)

theorem clashing_concat :
    clashing (declared ++ [last]) =
      clashing declared ++ if last.clashes declared then [last] else [] :=
  flatMapAfter_concat _ declared last

theorem symbolEntries_concat :
    symbolEntries (declared ++ [last]) = symbolEntries declared ++ symbolEntries [last] := by
  simp only [symbolEntries, List.filterMap_append, List.map_append]

theorem recordEntries_concat :
    recordEntries (declared ++ [last]) = recordEntries declared ++ recordEntries [last] :=
  List.filterMap_append

end Concat

section Reordering

def repeatedLabel? : Declaration → Option String
  | repeatedField within field _ => some (within ++ "." ++ field)
  | _ => none

def lateNames {α : Type} (entries : List (String × α)) : List String :=
  (repeats Prod.fst entries).map Prod.fst

theorem lateNames_concat {α : Type} (entries : List (String × α)) (last : String × α) :
    lateNames (entries ++ [last]) =
      lateNames entries ++ if last.1 ∈ entries.map Prod.fst then [last.1] else [] := by
  rw [lateNames, repeats_concat, List.map_append, ← lateNames]
  split <;> rfl

section Late

variable (declared : List Declaration) (last : Declaration)

theorem lateNames_symbolEntries_concat :
    lateNames (symbolEntries (declared ++ [last])) =
      lateNames (symbolEntries declared) ++
        if last.symbol?.isSome && last.clashes declared then [last.label] else [] := by
  rw [symbolEntries_concat]
  cases last with
  | symbol symbol =>
      apply (lateNames_concat _ (symbol.name, symbol)).trans
      by_cases late : symbol.name ∈ (symbolEntries declared).map Prod.fst
      · simp [symbol?, clashes, label, late]
      · simp [symbol?, clashes, late]
  | repeatedField within field site =>
      exact (congrArg lateNames (List.append_nil _)).trans (List.append_nil _).symm
  | record name fields site =>
      exact (congrArg lateNames (List.append_nil _)).trans (List.append_nil _).symm

theorem lateNames_recordEntries_concat :
    lateNames (recordEntries (declared ++ [last])) =
      lateNames (recordEntries declared) ++
        if last.record?.isSome && last.clashes declared then [last.label] else [] := by
  rw [recordEntries_concat]
  cases last with
  | record name fields site =>
      apply (lateNames_concat _ (name, fields)).trans
      by_cases late : name ∈ (recordEntries declared).map Prod.fst
      · simp [record?, clashes, label, late]
      · simp [record?, clashes, late]
  | symbol symbol =>
      exact (congrArg lateNames (List.append_nil _)).trans (List.append_nil _).symm
  | repeatedField within field site =>
      exact (congrArg lateNames (List.append_nil _)).trans (List.append_nil _).symm

theorem repeatedLabels_concat :
    (declared ++ [last]).filterMap repeatedLabel? =
      declared.filterMap repeatedLabel? ++ if last.isRepeated then [last.label] else [] := by
  rw [List.filterMap_append]
  cases last <;> rfl

end Late

theorem labels_clashing_perm (declared : List Declaration) :
    ((clashing declared).map label).Perm
      (lateNames (symbolEntries declared) ++
        (lateNames (recordEntries declared) ++ declared.filterMap repeatedLabel?)) := by
  induction declared using List.reverseRecOn with
  | nil => exact .refl _
  | append_singleton declared last ih =>
      rw [clashing_concat, List.map_append, lateNames_symbolEntries_concat,
        lateNames_recordEntries_concat, repeatedLabels_concat]
      rw [List.perm_iff_count] at ih ⊢
      intro name
      have counted := ih name
      simp only [List.count_append] at counted ⊢
      -- The last declaration counts on the left and in the part of its own kind.
      cases late : last.clashes declared with
      | false =>
          cases last with
          | repeatedField within field site => cases late
          | symbol symbol => simp [isRepeated, counted]
          | record name fields site => simp [isRepeated, counted]
      | true =>
          cases last <;>
            simp only [symbol?, record?, isRepeated, Option.isSome_some, Option.isSome_none,
              Bool.and_self, Bool.false_and, Bool.false_eq_true, if_true, if_false,
              List.map_singleton, List.count_nil, counted] <;>
            omega

variable {declared reordered : List Declaration} (same : declared.Perm reordered)

include same

theorem symbolEntries_perm : (symbolEntries declared).Perm (symbolEntries reordered) :=
  (same.filterMap symbol?).map _

theorem recordEntries_perm : (recordEntries declared).Perm (recordEntries reordered) :=
  same.filterMap record?

/-- Which declarations come too late depends on their order, but not what is said of them. -/
theorem labels_clashing_reordered :
    ((clashing declared).map label).Perm ((clashing reordered).map label) := by
  have symbols := repeats_perm Prod.fst (symbolEntries_perm same)
  have records := repeats_perm Prod.fst (recordEntries_perm same)
  have parts := symbols.append (records.append (same.filterMap repeatedLabel?))
  exact ((labels_clashing_perm declared).trans parts).trans (labels_clashing_perm reordered).symm

end Reordering

end Declaration

namespace SymbolTable

open Declaration

section Enter

variable (table : SymbolTable)

theorem env_enter_symbol (policy : RedefinitionPolicy) (symbol : Symbol) :
    (table.enter policy (.symbol symbol)).env =
      { table.env with symbols := table.env.symbols.insertNew symbol.name symbol } := by
  rw [enter]
  cases taken : table.env.symbols.contains symbol.name with
  | true => simp [report, OrderedMap.insertNew, taken]
  | false => simp [declare, Environment.declare]

theorem journal_enter_symbol (policy : RedefinitionPolicy) (symbol : Symbol) :
    (table.enter policy (.symbol symbol)).toJournal =
      table.toJournal ++ .ofFindings
        (if table.env.symbols.contains symbol.name then [(Declaration.symbol symbol).finding]
        else []) := by
  rw [enter]
  cases taken : table.env.symbols.contains symbol.name with
  | true => exact table.report_eq_append (.redeclared symbol.name symbol.definedAt)
  | false => exact table.append_empty.symm

theorem enter_record_replacing (name : String) (fields : Fields) (site : Node) :
    table.enter .replace (.record name fields site) =
      { table with env := { table.env with
          registry := ⟨table.env.registry.records.insert name fields⟩ } } := by
  apply enter_record_of_free
  intro rejects
  cases rejects

theorem env_enter_record (policy : RedefinitionPolicy) (name : String) (fields : Fields)
    (site : Node) :
    (table.enter policy (.record name fields site)).env =
      { table.env with registry := ⟨table.env.registry.records.keep policy name fields⟩ } := by
  cases policy with
  | replace =>
      rw [enter_record_replacing]
      rfl
  | reject =>
      cases taken : table.env.registry.records.contains name with
      | true =>
          simp [enter, Registry.verdict, Registry.isDefined, taken, report, OrderedMap.keep,
            OrderedMap.insertNew]
      | false =>
          rw [enter_record_of_free fun _ => taken]
          simp [OrderedMap.keep, OrderedMap.insertNew, taken]

theorem journal_enter_record (policy : RedefinitionPolicy) (name : String) (fields : Fields)
    (site : Node) :
    (table.enter policy (.record name fields site)).toJournal =
      table.toJournal ++ .ofFindings
        (if table.env.registry.records.contains name && policy = .reject then
          [(Declaration.record name fields site).finding]
        else []) := by
  cases policy with
  | replace =>
      rw [enter_record_replacing, Bool.and_comm]
      exact table.append_empty.symm
  | reject =>
      cases taken : table.env.registry.records.contains name with
      | true =>
          simp only [enter, Registry.verdict, Registry.isDefined, taken, if_true]
          exact table.report_eq_append (.redeclared name site)
      | false =>
          rw [enter_record_of_free fun _ => taken]
          exact table.append_empty.symm

end Enter

/-- A table that holds what counts of several declarations under a policy, and has a finding for
each other one that is reported. -/
structure Holds (policy : RedefinitionPolicy) (declared : List Declaration) (table : SymbolTable) :
    Prop where
  symbols : table.env.symbols = .ofFirsts (symbolEntries declared)
  records : table.env.registry.records = .ofKept policy (recordEntries declared)
  journal : table.toJournal =
    .ofFindings (((clashing declared).filter (isReported policy)).map finding)

theorem Holds.enter {policy : RedefinitionPolicy} {declared : List Declaration}
    {table : SymbolTable} (holds : Holds policy declared table) (declaration : Declaration) :
    Holds policy (declared ++ [declaration]) (table.enter policy declaration) := by
  cases declaration with
  | symbol symbol =>
      have clash : (Declaration.symbol symbol).clashes declared =
          table.env.symbols.contains symbol.name := by
        rw [Bool.eq_iff_iff, holds.symbols, OrderedMap.contains_ofFirsts]
        exact decide_eq_true_iff
      constructor
      · rw [env_enter_symbol, symbolEntries_concat, holds.symbols]
        exact (OrderedMap.ofFirsts_concat _ symbol.name symbol).symm
      · rw [env_enter_symbol, recordEntries_concat]
        exact holds.records.trans (congrArg _ (List.append_nil _).symm)
      · rw [journal_enter_symbol, clashing_concat, clash, holds.journal, List.filter_append,
          List.map_append, Journal.ofFindings_append]
        cases table.env.symbols.contains symbol.name <;> simp [isReported, record?]
  | repeatedField within field site =>
      constructor
      · rw [symbolEntries_concat]
        exact holds.symbols.trans (congrArg _ (List.append_nil _).symm)
      · rw [recordEntries_concat]
        exact holds.records.trans (congrArg _ (List.append_nil _).symm)
      · have reported : isReported policy (.repeatedField within field site) = true := by
          simp [isReported, record?]
        rw [clashing_concat, List.filter_append, List.map_append, Journal.ofFindings_append,
          ← holds.journal, clashes, if_pos rfl, List.filter_cons_of_pos reported]
        exact table.report_eq_append (.redeclared (within ++ "." ++ field) site)
  | record name fields site =>
      have clash : (Declaration.record name fields site).clashes declared =
          table.env.registry.records.contains name := by
        rw [Bool.eq_iff_iff, holds.records, OrderedMap.contains_ofKept]
        exact decide_eq_true_iff
      constructor
      · rw [env_enter_record, symbolEntries_concat]
        exact holds.symbols.trans (congrArg _ (List.append_nil _).symm)
      · rw [env_enter_record, recordEntries_concat, holds.records]
        exact (OrderedMap.ofKept_concat _ name policy fields).symm
      · rw [journal_enter_record, clashing_concat, clash, holds.journal, List.filter_append,
          List.map_append, Journal.ofFindings_append]
        cases table.env.registry.records.contains name <;> cases policy <;>
          simp [isReported, record?]

theorem enterAll_holds (policy : RedefinitionPolicy) (declared : List Declaration) :
    Holds policy declared (empty.enterAll policy declared) := by
  induction declared using List.reverseRecOn with
  | nil =>
      refine ⟨OrderedMap.eq_of_entries rfl, OrderedMap.eq_of_entries ?_, rfl⟩
      cases policy <;> rfl
  | append_singleton declared last ih =>
      rw [enterAll_concat]
      exact ih.enter last

/-- A table that holds the first declaration of everything and has a finding for each other
one. -/
structure HoldsFirsts (declared : List Declaration) (table : SymbolTable) : Prop where
  symbols : table.env.symbols = .ofFirsts (symbolEntries declared)
  records : table.env.registry.records = .ofFirsts (recordEntries declared)
  journal : table.toJournal = .ofFindings ((clashing declared).map finding)

theorem enterAll_holdsFirsts (declared : List Declaration) :
    HoldsFirsts declared (empty.enterAll .reject declared) := by
  have holds := enterAll_holds .reject declared
  refine ⟨holds.symbols, holds.records, ?_⟩
  rw [holds.journal, filter_isReported_reject]

namespace HoldsFirsts

variable {declared reordered : List Declaration} {table other : SymbolTable}

theorem redeclared_eq (holds : HoldsFirsts declared table) :
    table.redeclared = (clashing declared).map label := by
  calc table.redeclared
      = ((clashing declared).map finding).filterMap (·.redeclared?) := by rw [holds.journal]; rfl
    _ = (clashing declared).map label := by
        rw [List.filterMap_map]
        exact congrFun List.filterMap_eq_map (clashing declared)

theorem quiet_iff (holds : HoldsFirsts declared table) :
    table.Clean ↔ table.redeclared = [] := by
  rw [holds.redeclared_eq, holds.journal, Journal.clean_ofFindings_iff, List.map_eq_nil_iff,
    List.map_eq_nil_iff]

theorem names_distinct (holds : HoldsFirsts declared table) (quiet : table.Clean) :
    ((symbolEntries declared).map Prod.fst).Nodup ∧
      ((recordEntries declared).map Prod.fst).Nodup := by
  have parts := labels_clashing_perm declared
  rw [← holds.redeclared_eq, holds.quiet_iff.mp quiet] at parts
  obtain ⟨symbols, rest⟩ := List.append_eq_nil_iff.mp parts.symm.eq_nil
  obtain ⟨records, _⟩ := List.append_eq_nil_iff.mp rest
  rw [lateNames, List.map_eq_nil_iff, repeats_eq_nil_iff] at symbols records
  exact ⟨symbols, records⟩

section Reordering

variable (holds : HoldsFirsts declared table) (otherHolds : HoldsFirsts reordered other)
  (same : declared.Perm reordered)

include holds otherHolds same

theorem redeclared_perm : table.redeclared.Perm other.redeclared := by
  rw [holds.redeclared_eq, otherHolds.redeclared_eq]
  exact labels_clashing_reordered same

theorem size_eq : table.size = other.size := by
  have names := (firsts_perm Prod.fst (symbolEntries_perm same)).length_eq
  rw [List.length_map, List.length_map] at names
  rw [size, holds.symbols, size, otherHolds.symbols]
  exact names

theorem lookups_eq (quiet : table.Clean) :
    (∀ name, table.env.lookup? name = other.env.lookup? name) ∧
      ∀ name, table.env.registry.fieldsOf? name = other.env.registry.fieldsOf? name := by
  obtain ⟨symbols, records⟩ := holds.names_distinct quiet
  constructor
  · intro name
    rw [Environment.lookup?, Environment.lookup?, holds.symbols, otherHolds.symbols]
    exact OrderedMap.get?_ofFirsts_of_perm (symbolEntries_perm same) symbols name
  · intro name
    rw [Registry.fieldsOf?, Registry.fieldsOf?, holds.records, otherHolds.records]
    exact OrderedMap.get?_ofFirsts_of_perm (recordEntries_perm same) records name

end Reordering

end HoldsFirsts

end SymbolTable

end SwarmCheck
