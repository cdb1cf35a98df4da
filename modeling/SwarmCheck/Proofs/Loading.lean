import SwarmCheck.Settings.Load

/-!
# Which file settings come from

A file of settings gives settings, is passed over, or ends the loading, and which of these it does
depends on its content alone: on the text that its bytes stand for, on the table in that text and on
the options in that table. Settings come from the first of two files that gives some, all of them
from that one file, and the defaults stand in if both files are passed over. Two kinds of content
are not passed over, though nothing can be made of them: bytes that stand for no text, and integers
too long to be read.
-/

namespace SwarmCheck

set_option autoImplicit false

namespace Toml

/-- An integer that ends the scan has more digits than may be read. -/
def Lenient {α : Type} (scan : Except Flaw α) : Prop :=
  ∀ digits, scan = .error (.longInteger digits) → maxDigits < digits

section Lenient

variable {α β : Type}

theorem lenient_ok (value : α) : Lenient (.ok value) := by
  intro digits failed
  cases failed

theorem lenient_malformed : Lenient (.error .malformed : Except Flaw α) := by
  intro digits failed
  cases failed

theorem lenient_require (found : Option α) : Lenient (require found) := by
  cases found with
  | none => exact lenient_malformed
  | some value => exact lenient_ok value

theorem Lenient.bind {scan : Except Flaw α} {next : α → Except Flaw β} (lenient : Lenient scan)
    (each : ∀ value, Lenient (next value)) : Lenient (scan >>= next) := by
  cases scan with
  | ok value => exact each value
  | error flaw =>
      intro digits failed
      cases failed
      exact lenient digits rfl

end Lenient

theorem scanInteger_lenient (sign whole rest : Chars) : Lenient (scanInteger sign whole rest) := by
  rw [scanInteger]
  split
  · rename_i long
    intro digits failed
    cases failed
    exact long
  · exact lenient_ok _

theorem scanAfterWhole_lenient (sign whole chars : Chars) :
    Lenient (scanAfterWhole sign whole chars) := by
  simp only [scanAfterWhole]
  split
  · exact scanInteger_lenient _ _ _
  · exact (lenient_require _).bind fun _ => lenient_ok _

theorem scanNumber_lenient (chars : Chars) : Lenient (scanNumber chars) := by
  simp only [scanNumber]
  split
  · exact lenient_ok _
  · split
    · exact scanAfterWhole_lenient _ _ _
    · exact lenient_require _

theorem scanScalar_lenient (chars : Chars) : Lenient (scanScalar chars) := by
  rw [scanScalar]
  split
  · exact lenient_ok _
  · exact lenient_malformed
  · exact scanNumber_lenient chars

/-- Values, arrays and inline tables hold each other, each with less fuel than the one around it. -/
theorem scanValueWith_lenient (fuel : Nat) :
    (∀ chars, Lenient (scanValueWith fuel chars)) ∧
      (∀ values chars, Lenient (scanElementsWith fuel values chars)) ∧
      ∀ table closed chars, Lenient (scanInlineWith fuel table closed chars) := by
  induction fuel with
  | zero =>
      refine ⟨fun chars => ?_, fun values chars => ?_, fun table closed chars => ?_⟩
      · rw [scanValueWith]
        exact lenient_malformed
      · rw [scanElementsWith]
        exact lenient_malformed
      · rw [scanInlineWith]
        exact lenient_malformed
  | succ fuel ih =>
      obtain ⟨value, elements, inline⟩ := ih
      refine ⟨fun chars => ?_, fun values chars => ?_, fun table closed chars => ?_⟩
      · cases chars with
        | nil =>
            rw [scanValueWith]
            · exact lenient_malformed
            · simp
        | cons c rest =>
            rw [scanValueWith]
            split
            · exact (lenient_require _).bind fun _ => lenient_ok _
            · split
              · refine (lenient_require _).bind fun rest => ?_
                split
                · exact lenient_ok _
                · exact elements _ _
              · split
                · split
                  · exact lenient_ok _
                  · exact inline _ _ _
                · split
                  · exact lenient_ok _
                  · exact scanScalar_lenient _
      · rw [scanElementsWith]
        refine (value _).bind fun scanned => (lenient_require _).bind fun rest => ?_
        split
        · exact lenient_ok _
        · refine (lenient_require _).bind fun more => ?_
          split
          · exact lenient_ok _
          · exact elements _ _
        · exact lenient_malformed
      · rw [scanInlineWith]
        refine (lenient_require _).bind fun key => (lenient_require _).bind fun rest =>
          (value _).bind fun scanned => (lenient_require _).bind fun path => ?_
        dsimp only
        split
        · exact lenient_malformed
        · refine (lenient_require _).bind fun table => ?_
          split
          · exact lenient_ok _
          · exact inline _ _ _
          · exact lenient_malformed

theorem scanPair_lenient (chars : Chars) : Lenient (scanPair chars) :=
  (lenient_require _).bind fun _ => (lenient_require _).bind fun _ =>
    ((scanValueWith_lenient _).1 _).bind fun _ => lenient_ok _

theorem scanStatement_lenient (document : Document) (chars : Chars) :
    Lenient (document.scanStatement chars) := by
  cases chars with
  | nil => exact lenient_ok _
  | cons c rest =>
      rw [Document.scanStatement]
      split
      · exact (scanPair_lenient _).bind fun _ => (lenient_require _).bind fun _ => lenient_ok _
      · split
        · exact (lenient_require _).bind fun _ => lenient_ok _
        · split
          · exact lenient_ok _
          · exact lenient_malformed

theorem scanLines_lenient (fuel : Nat) (document : Document) (chars : Chars) :
    Lenient (Document.scanLines fuel document chars) := by
  induction fuel generalizing document chars with
  | zero => exact lenient_malformed
  | succ fuel ih =>
      rw [Document.scanLines]
      refine (scanStatement_lenient _ _).bind fun scanned => (lenient_require _).bind fun rest => ?_
      split
      · exact lenient_ok _
      · split
        · exact ih _ _
        · exact lenient_malformed

theorem parse_lenient (text : String) : Lenient (parse text) := by
  intro digits failed
  rw [parse] at failed
  cases scanned : Document.scanLines ((joinLineEnds text.toList).length + 1) {}
      (joinLineEnds text.toList) with
  | ok document =>
      rw [scanned] at failed
      cases failed
  | error flaw =>
      rw [scanned] at failed
      cases failed
      exact scanLines_lenient _ _ _ digits scanned

end Toml

theorem RedefinitionPolicy.ofText?_eq_some_iff {text : String} {policy : RedefinitionPolicy} :
    ofText? text = some policy ↔ text = policy.text := by
  constructor
  · intro read
    unfold ofText? at read
    split at read <;> cases read
    · rfl
    · rfl
  · rintro rfl
    cases policy <;> rfl

namespace Settings

/-- An option is what its own entry says, or its default where there is no entry of its name. -/
structure StatedIn (entries : List (String × Value)) (settings : Settings) : Prop where
  recordRedefinition :
    entries.lookup "record_redefinition" = none ∧ settings.recordRedefinition = .reject ∨
      entries.lookup "record_redefinition" = some (.text settings.recordRedefinition.text)
  verbose :
    entries.lookup "verbose" = none ∧ settings.verbose = false ∨
      ∃ value, entries.lookup "verbose" = some value ∧ flagOf value = .ok settings.verbose

theorem policyOf_eq_ok_iff {value : Value} {policy : RedefinitionPolicy} :
    policyOf value = .ok policy ↔ value = .text policy.text := by
  cases value with
  | text text =>
      rw [policyOf, Value.text.injEq, ← RedefinitionPolicy.ofText?_eq_some_iff]
      cases RedefinitionPolicy.ofText? text <;> simp
  | _ => simp [policyOf]

theorem option_eq_ok_iff {α : Type} {entries : List (String × Value)} {key : String}
    {fallback answer : α} {read : Value → Except Problem α} :
    option entries key fallback read = .ok answer ↔
      entries.lookup key = none ∧ answer = fallback ∨
        ∃ value, entries.lookup key = some value ∧ read value = .ok answer := by
  rw [option]
  cases entries.lookup key with
  | none => simp [eq_comm]
  | some value => simp

theorem ofEntries_eq_ok_iff_options {entries : List (String × Value)} {settings : Settings} :
    ofEntries entries = .ok settings ↔
      option entries "record_redefinition" .reject policyOf = .ok settings.recordRedefinition ∧
        option entries "verbose" false flagOf = .ok settings.verbose := by
  cases settings with
  | mk policy verbose =>
      rw [ofEntries]
      cases option entries "record_redefinition" .reject policyOf <;>
        cases option entries "verbose" false flagOf <;> simp

theorem ofEntries_eq_ok_iff {entries : List (String × Value)} {settings : Settings} :
    ofEntries entries = .ok settings ↔ settings.StatedIn entries := by
  rw [ofEntries_eq_ok_iff_options, option_eq_ok_iff, option_eq_ok_iff]
  simp only [policyOf_eq_ok_iff, exists_eq_right]
  exact ⟨fun ⟨policy, verbose⟩ => ⟨policy, verbose⟩, fun ⟨policy, verbose⟩ => ⟨policy, verbose⟩⟩

end Settings

namespace ConfigFile

/-- The file is a document whose table of options is valid, and these are the options. -/
inductive Gives : ConfigFile → Settings → Prop where
  | table {text : String} {root : Toml.Table} {entries : List (String × Value)}
      {settings : Settings} (parsed : Toml.parse text = .ok root)
      (found : root.lookup Settings.tableName = some (.table entries))
      (stated : settings.StatedIn entries) : Gives (.bytes text.toUTF8) settings

/-- There is no file, or nothing can be made of it that is of use. -/
inductive PassedOver : ConfigFile → Prop where
  | absent : PassedOver .absent
  | unreadable : PassedOver .unreadable
  | malformed {text : String} (flawed : Toml.parse text = .error .malformed) :
      PassedOver (.bytes text.toUTF8)
  | tableless {text : String} {root : Toml.Table} (parsed : Toml.parse text = .ok root)
      (missing : ∀ entries, root.lookup Settings.tableName ≠ some (.table entries)) :
      PassedOver (.bytes text.toUTF8)
  | invalid {text : String} {root : Toml.Table} {entries : List (String × Value)}
      (parsed : Toml.parse text = .ok root)
      (found : root.lookup Settings.tableName = some (.table entries))
      (unstated : ∀ settings : Settings, ¬ settings.StatedIn entries) :
      PassedOver (.bytes text.toUTF8)

inductive Breaks : ConfigFile → LoadError → Prop where
  | undecodable {content : ByteArray} (textless : ∀ text : String, text.toUTF8 ≠ content) :
      Breaks (.bytes content) .notUtf8
  | longInteger {text : String} {digits : Nat}
      (flawed : Toml.parse text = .error (.longInteger digits)) (long : Toml.maxDigits < digits) :
      Breaks (.bytes text.toUTF8) (.longInteger digits)

/-- What a file comes to. -/
def Yields (file : ConfigFile) : Except LoadError (Option Settings) → Prop
  | .ok (some settings) => file.Gives settings
  | .ok none => file.PassedOver
  | .error error => file.Breaks error

end ConfigFile

namespace Settings

theorem ofRoot?_of_table {root : Toml.Table} {entries : List (String × Value)}
    (found : root.lookup tableName = some (.table entries)) :
    ofRoot? root = (ofEntries entries).toOption := by
  rw [ofRoot?, found]

theorem ofRoot?_of_tableless {root : Toml.Table}
    (missing : ∀ entries, root.lookup tableName ≠ some (.table entries)) : ofRoot? root = none := by
  unfold ofRoot?
  split
  · rename_i entries found
    exact absurd found (missing entries)
  · rfl

theorem ofText_of_parse {text : String} {root : Toml.Table} (parsed : Toml.parse text = .ok root) :
    ofText text = .ok (ofRoot? root) := by
  rw [ofText, parsed]

theorem ofFile_toUTF8 (text : String) : ofFile (.bytes text.toUTF8) = ofText text := by
  have decoded : String.fromUTF8? text.toUTF8 = some text := dif_pos text.isValidUTF8
  rw [ofFile, decoded]

theorem ofFile_invalidUTF8 {content : ByteArray} (invalid : ¬ content.IsValidUTF8) :
    ofFile (.bytes content) = .error .notUtf8 := by
  have undecoded : String.fromUTF8? content = none := dif_neg invalid
  rw [ofFile, undecoded]

theorem ofFile_undecodable {content : ByteArray}
    (textless : ∀ text : String, text.toUTF8 ≠ content) :
    ofFile (.bytes content) = .error .notUtf8 :=
  ofFile_invalidUTF8 fun valid => textless (String.fromUTF8 content valid) rfl

theorem ofText_yields (text : String) : (ConfigFile.bytes text.toUTF8).Yields (ofText text) := by
  cases parsed : Toml.parse text with
  | ok root =>
      rw [ofText_of_parse parsed]
      by_cases tabled : ∃ entries, root.lookup tableName = some (.table entries)
      · obtain ⟨entries, found⟩ := tabled
        rw [ofRoot?_of_table found]
        cases read : ofEntries entries with
        | ok settings => exact .table parsed found (ofEntries_eq_ok_iff.1 read)
        | error problems =>
            refine .invalid parsed found fun settings stated => ?_
            rw [ofEntries_eq_ok_iff.2 stated] at read
            cases read
      · have missing := not_exists.1 tabled
        rw [ofRoot?_of_tableless missing]
        exact .tableless parsed missing
  | error flaw =>
      rw [ofText, parsed]
      cases flaw with
      | malformed => exact .malformed parsed
      | longInteger digits => exact .longInteger parsed (Toml.parse_lenient text digits parsed)

theorem ofFile_yields (file : ConfigFile) : file.Yields (ofFile file) := by
  cases file with
  | absent => exact .absent
  | unreadable => exact .unreadable
  | bytes content =>
      by_cases decodable : ∃ text : String, text.toUTF8 = content
      · obtain ⟨text, rfl⟩ := decodable
        rw [ofFile_toUTF8]
        exact ofText_yields text
      · have textless := not_exists.1 decodable
        rw [ofFile_undecodable textless]
        exact .undecodable textless

theorem ofFile_of_gives {file : ConfigFile} {settings : Settings} (gives : file.Gives settings) :
    ofFile file = .ok (some settings) := by
  cases gives with
  | table parsed found stated =>
      rw [ofFile_toUTF8, ofText_of_parse parsed, ofRoot?_of_table found,
        ofEntries_eq_ok_iff.2 stated, Except.toOption]

theorem ofFile_of_passedOver {file : ConfigFile} (passed : file.PassedOver) :
    ofFile file = .ok none := by
  cases passed with
  | absent => rfl
  | unreadable => rfl
  | malformed flawed => rw [ofFile_toUTF8, ofText, flawed]
  | tableless parsed missing =>
      rw [ofFile_toUTF8, ofText_of_parse parsed, ofRoot?_of_tableless missing]
  | @invalid _ _ entries parsed found unstated =>
      rw [ofFile_toUTF8, ofText_of_parse parsed, ofRoot?_of_table found]
      cases read : ofEntries entries with
      | ok settings => exact absurd (ofEntries_eq_ok_iff.1 read) (unstated settings)
      | error problems => rfl

theorem ofFile_of_breaks {file : ConfigFile} {error : LoadError} (breaks : file.Breaks error) :
    ofFile file = .error error := by
  cases breaks with
  | undecodable textless => exact ofFile_undecodable textless
  | longInteger flawed _ => rw [ofFile_toUTF8, ofText, flawed]

theorem yields_of_ofFile {file : ConfigFile} {outcome : Except LoadError (Option Settings)}
    (found : ofFile file = outcome) : file.Yields outcome :=
  found ▸ ofFile_yields file

theorem ofFile_eq_some_iff {file : ConfigFile} {settings : Settings} :
    ofFile file = .ok (some settings) ↔ file.Gives settings :=
  ⟨yields_of_ofFile, ofFile_of_gives⟩

theorem ofFile_eq_none_iff {file : ConfigFile} : ofFile file = .ok none ↔ file.PassedOver :=
  ⟨yields_of_ofFile, ofFile_of_passedOver⟩

theorem ofFile_eq_error_iff {file : ConfigFile} {error : LoadError} :
    ofFile file = .error error ↔ file.Breaks error :=
  ⟨yields_of_ofFile, ofFile_of_breaks⟩

theorem loadFirst_cons_eq_ok_iff {file : ConfigFile} {rest : List ConfigFile}
    {settings : Settings} :
    loadFirst (file :: rest) = .ok settings ↔
      file.Gives settings ∨ file.PassedOver ∧ loadFirst rest = .ok settings := by
  rw [← ofFile_eq_some_iff, ← ofFile_eq_none_iff, loadFirst]
  rcases ofFile file with error | _ | given <;> simp

theorem loadFirst_cons_eq_error_iff {file : ConfigFile} {rest : List ConfigFile}
    {error : LoadError} :
    loadFirst (file :: rest) = .error error ↔
      file.Breaks error ∨ file.PassedOver ∧ loadFirst rest = .error error := by
  rw [← ofFile_eq_error_iff, ← ofFile_eq_none_iff, loadFirst]
  rcases ofFile file with error | _ | given <;> simp

/-- Loading returns the settings of the first file that gives some, or the defaults if both files
are passed over, and it fails on the first file that is neither. -/
theorem load_from_first_usable (working home : ConfigFile) :
    (∀ settings, load working home = .ok settings ↔
      working.Gives settings ∨
        working.PassedOver ∧ (home.Gives settings ∨ home.PassedOver ∧ settings = {})) ∧
    (∀ error, load working home = .error error ↔
      working.Breaks error ∨ working.PassedOver ∧ home.Breaks error) := by
  constructor
  · intro settings
    rw [load, loadFirst_cons_eq_ok_iff, loadFirst_cons_eq_ok_iff, loadFirst, Except.ok.injEq,
      eq_comm (b := settings)]
  · intro error
    rw [load, loadFirst_cons_eq_error_iff, loadFirst_cons_eq_error_iff, loadFirst]
    simp

def verboseText : String := "[analysis]\nverbose = true\n"

theorem ofText_verboseText : ofText verboseText = .ok (some ⟨.reject, true⟩) := by
  have given : (ofText verboseText).toOption = some (some ⟨.reject, true⟩) := by decide +kernel
  generalize ofText verboseText = outcome at given
  cases outcome with
  | error error => cases given
  | ok found =>
      cases given
      rfl

/-- No text has this byte in it. It ends the loading before the file that is of use is looked at. -/
theorem undecodable_file_ends_loading :
    load .absent (.bytes verboseText.toUTF8) = .ok ⟨.reject, true⟩ ∧
      load (.bytes ⟨#[0xff]⟩) (.bytes verboseText.toUTF8) = .error .notUtf8 := by
  constructor
  · rw [load, loadFirst, ofFile, loadFirst, ofFile_toUTF8, ofText_verboseText]
  · have invalid : ¬ ByteArray.IsValidUTF8 ⟨#[0xff]⟩ := by decide +kernel
    rw [load, loadFirst, ofFile_invalidUTF8 invalid]

end Settings

end SwarmCheck
