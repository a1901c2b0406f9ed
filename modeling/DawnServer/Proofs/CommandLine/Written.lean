import DawnServer.CommandLine.Parser
import DawnServer.Proofs.Text.Trimming

/-!
# Written command lines

A command line that is carried out is a row of options, each in one or two arguments, and an end:
nothing, two hyphens, or the subcommand that prints a file.  Here are the arguments of each, what
a row of options chooses, and that the form of an argument tells which option it is.
-/

namespace DawnServer

/-! ## Options -/

def OptionName.text : OptionName → Text
  | .flag .stdio => "stdio".toList
  | .flag .socket => "socket".toList
  | .flag .exactSpans => "exact-span-lengths".toList
  | .flag .noColor => "no-color".toList
  | .flag .noFileLogging => "no-file-logging".toList
  | .setting .port => "port".toList
  | .setting .framework => "framework".toList
  | .setting .diagnostics => "diagnostics".toList
  | .setting .logLevel => "log-level".toList
  | .help => "help".toList
  | .version => "version".toList

namespace OptionName

theorem lookup_eq_some {text : Text} {name : OptionName} :
    table.lookup text = some name ↔ text = name.text := by
  constructor
  · intro h
    obtain ⟨before, behind, htable, -⟩ := List.lookup_eq_some_iff.1 h
    have hall : ∀ entry ∈ table, entry.1 = entry.2.text := by decide
    exact hall (text, name) (htable ▸ List.mem_append_right _ List.mem_cons_self)
  · rintro rfl
    cases name with
    | flag flag => cases flag <;> rfl
    | setting setting => cases setting <;> rfl
    | help => rfl
    | version => rfl

theorem text_ne_nil (name : OptionName) : name.text ≠ [] := by
  cases name with
  | flag flag => cases flag <;> decide
  | setting setting => cases setting <;> decide
  | help => decide
  | version => decide

theorem equals_notMem_text (name : OptionName) : '=' ∉ name.text := by
  cases name with
  | flag flag => cases flag <;> decide
  | setting setting => cases setting <;> decide
  | help => decide
  | version => decide

end OptionName

inductive WrittenOption where
  | flag (flag : Flag)
  /-- The value stands in the same argument, after an equals sign. -/
  | joined (setting : Setting) (value : Text)
  /-- The value is the next argument. -/
  | apart (setting : Setting) (value : Text)

namespace WrittenOption

def name : WrittenOption → OptionName
  | .flag f => .flag f
  | .joined setting _ => .setting setting
  | .apart setting _ => .setting setting

def arguments : WrittenOption → List Text
  | .flag f => ['-' :: '-' :: (OptionName.flag f).text]
  | .joined setting value => ['-' :: '-' :: ((OptionName.setting setting).text ++ '=' :: value)]
  | .apart setting value => ['-' :: '-' :: (OptionName.setting setting).text, value]

end WrittenOption

def Setting.Accepts : Setting → Text → Prop
  | .port, value => ∃ port, ArgumentReader.port? value = some port
  | .framework, value => value ≠ []
  | .diagnostics, value => ∃ mode, DiagnosticsMode.parse value = .ok mode
  | .logLevel, _ => True

/-- The value of an option is accepted, and where it is an argument of its own, it does not look
like an option. -/
def WrittenOption.Proper : WrittenOption → Prop
  | .flag _ => True
  | .joined setting value => setting.Accepts value
  | .apart setting value => setting.Accepts value ∧ Argument.ofText value = .plain

/-! ## What options choose -/

namespace CommandLine

def choose (line : CommandLine) (setting : Setting) (value : Text) : CommandLine :=
  match setting with
  | .port => { line with port := ArgumentReader.port? value }
  | .framework => { line with framework := some value }
  | .diagnostics => { line with diagnostics := (DiagnosticsMode.parse value).toOption }
  | .logLevel => { line with logLevel := some value }

def record (line : CommandLine) : WrittenOption → CommandLine
  | .flag flag => { line with flags := line.flags ++ [flag] }
  | .joined setting value => line.choose setting value
  | .apart setting value => line.choose setting value

theorem given_choose {line : CommandLine} {setting : Setting} {value : Text}
    (h : setting.Accepts value) (name : OptionName) :
    (line.choose setting value).Given name ↔ line.Given name ∨ name = .setting setting := by
  cases setting with
  | port =>
    obtain ⟨port, hport⟩ := h
    rcases name with _ | (_ | _ | _ | _) | _ | _ <;> simp [choose, Given, has, hport]
  | framework => rcases name with _ | (_ | _ | _ | _) | _ | _ <;> simp [choose, Given, has]
  | diagnostics =>
    obtain ⟨mode, hmode⟩ := h
    rcases name with _ | (_ | _ | _ | _) | _ | _ <;>
      simp [choose, Given, has, hmode, Except.toOption]
  | logLevel => rcases name with _ | (_ | _ | _ | _) | _ | _ <;> simp [choose, Given, has]

theorem given_record {line : CommandLine} {option : WrittenOption} (h : option.Proper)
    (name : OptionName) :
    (line.record option).Given name ↔ line.Given name ∨ name = option.name := by
  cases option with
  | flag flag =>
    rcases name with _ | (_ | _ | _ | _) | _ | _ <;>
      simp [record, Given, has, WrittenOption.name]
  | joined setting value => exact given_choose h name
  | apart setting value => exact given_choose h.1 name

theorem not_given_empty (name : OptionName) : ¬ empty.Given name := by
  rcases name with _ | (_ | _ | _ | _) | _ | _ <;> simp [empty, Given, has]

/-- **What has been given are the options that were written.** -/
theorem given_foldl_record {options : List WrittenOption} (h : ∀ option ∈ options, option.Proper)
    (line : CommandLine) (name : OptionName) :
    (options.foldl record line).Given name ↔
      line.Given name ∨ ∃ option ∈ options, option.name = name := by
  induction options generalizing line with
  | nil => simp
  | cons option options ih =>
    rw [List.foldl_cons, ih fun other hother => h other (List.mem_cons_of_mem _ hother),
      given_record (h option List.mem_cons_self), or_assoc, List.exists_mem_cons_iff, eq_comm]

end CommandLine

/-! ## Ends -/

inductive WrittenEnd where
  | nothing
  | hyphens
  | path (path : Text)
  | pathHyphens (path : Text)
  | hyphensPath (path : Text)

namespace WrittenEnd

def arguments : WrittenEnd → List Text
  | .nothing => []
  | .hyphens => ["--".toList]
  | .path file => [ArgumentReader.printName, file]
  | .pathHyphens file => [ArgumentReader.printName, file, "--".toList]
  | .hyphensPath file => [ArgumentReader.printName, "--".toList, file]

/-- The path to print is not empty, and where no hyphens stand in front of it, it does not look
like an option. -/
def Proper : WrittenEnd → Prop
  | .nothing => True
  | .hyphens => True
  | .path file => file ≠ [] ∧ Argument.ofText file = .plain
  | .pathHyphens file => file ≠ [] ∧ Argument.ofText file = .plain
  | .hyphensPath file => file ≠ []

def close (line : CommandLine) : WrittenEnd → CommandLine
  | .nothing => line
  | .hyphens => line
  | .path file => { line with printed := some file }
  | .pathHyphens file => { line with printed := some file }
  | .hyphensPath file => { line with printed := some file }

theorem given_close (line : CommandLine) (ending : WrittenEnd) (name : OptionName) :
    (ending.close line).Given name ↔ line.Given name := by
  cases ending <;> rcases name with _ | (_ | _ | _ | _) | _ | _ <;> rfl

end WrittenEnd

/-- A command line as it is written. -/
structure WrittenLine where
  options : List WrittenOption
  ending : WrittenEnd

namespace WrittenLine

def arguments (written : WrittenLine) : List Text :=
  written.options.flatMap WrittenOption.arguments ++ written.ending.arguments

def Names (written : WrittenLine) (name : OptionName) : Prop :=
  ∃ option ∈ written.options, option.name = name

def chosen (written : WrittenLine) : CommandLine :=
  written.ending.close (written.options.foldl CommandLine.record CommandLine.empty)

/-- Every value is accepted, and no option is written twice. -/
structure Proper (written : WrittenLine) : Prop where
  options : ∀ option ∈ written.options, option.Proper
  once : (written.options.map WrittenOption.name).Nodup
  ending : written.ending.Proper

theorem Proper.given_chosen {written : WrittenLine} (h : written.Proper) (name : OptionName) :
    written.chosen.Given name ↔ written.Names name := by
  rw [chosen, WrittenEnd.given_close, CommandLine.given_foldl_record h.options]
  exact or_iff_right (CommandLine.not_given_empty name)

end WrittenLine

/-! ## The form of an argument -/

namespace Argument

theorem ofText_eq_separator {text : Text} : ofText text = .separator ↔ text = "--".toList := by
  constructor
  · intro h
    rw [ofText.eq_def] at h
    split at h
    · rfl
    · cases h
    · cases h
    · cases h
  · rintro rfl
    rfl

theorem ofText_long {name : Text} (hname : name ≠ []) : ofText ('-' :: '-' :: name) =
    .long (Text.cut '=' name).1 (Text.cut '=' name).2 := by
  cases name with
  | nil => exact absurd rfl hname
  | cons c name => rfl

theorem eq_of_ofText_long {text name : Text} {value : Option Text}
    (h : ofText text = .long name value) :
    text = '-' :: '-' :: (name ++ (value.map ('=' :: ·)).getD []) := by
  rw [ofText.eq_def] at h
  split at h
  · cases h
  · next text _ =>
    injection h with hname hvalue
    rw [← hname, ← hvalue, Text.cut_fst_append]
  · cases h
  · cases h

end Argument

end DawnServer
