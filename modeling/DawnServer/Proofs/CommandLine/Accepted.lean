import DawnServer.Proofs.CommandLine.Written

/-!
# Accepted command lines

Reading takes one option after the other until it comes to an end (`ArgumentReader.Reads`).  When
a value is checked decides which fault is reported, but not what is accepted, so a pending value
can be given its setting at once (`ArgumentReader.read_eq_ok_iff`).  What is accepted are then the
written lines, neither more (`ArgumentReader.exists_written_of_reads`) nor less
(`ArgumentReader.reads_written`), whose options agree on how the server is reached
(`accepted_transports`).
-/

namespace DawnServer

theorem bind_eq_ok_iff {ε α β : Type} {x : Except ε α} {f : α → Except ε β} {b : β} :
    x >>= f = .ok b ↔ ∃ a, x = .ok a ∧ f a = .ok b := by
  cases x with
  | error e => exact ⟨nofun, nofun⟩
  | ok a => exact ⟨fun h => ⟨a, rfl, h⟩, fun ⟨_, rfl, h⟩ => h⟩

namespace ArgumentReader

/-! ## Values -/

theorem give_eq_ok_iff {line result : CommandLine} {setting : Setting} {value : Text} :
    give line setting value = .ok result ↔ ¬ line.Given (.setting setting) ∧
      setting.Accepts value ∧ line.choose setting value = result := by
  rw [give.eq_def]
  cases setting with
  | port =>
    cases hgiven : line.port.isSome <;> cases hvalue : port? value <;>
      simp [CommandLine.Given, CommandLine.choose, Setting.Accepts, hgiven, hvalue]
  | framework =>
    cases hgiven : line.framework.isSome <;> cases value <;>
      simp [CommandLine.Given, CommandLine.choose, Setting.Accepts, hgiven]
  | diagnostics =>
    cases hgiven : line.diagnostics.isSome <;> cases hvalue : DiagnosticsMode.parse value <;>
      simp [CommandLine.Given, CommandLine.choose, Setting.Accepts, hgiven, hvalue, Except.toOption]
  | logLevel =>
    cases hgiven : line.logLevel.isSome <;>
      simp [CommandLine.Given, CommandLine.choose, Setting.Accepts, hgiven]

/-- What taking an option can do to the line: choose a flag or a value, or wait for a value. -/
inductive Takes (line : CommandLine) : OptionName → Option Text → ArgumentReader → Prop where
  | flag (f : Flag) (h : ¬ line.Given (.flag f)) :
    Takes line (.flag f) none ⟨line.record (.flag f), none⟩
  | await (setting : Setting) : Takes line (.setting setting) none ⟨line, some (setting, none)⟩
  | value (setting : Setting) (value : Text) (result : CommandLine)
    (h : give line setting value = .ok result) :
    Takes line (.setting setting) (some value) ⟨result, none⟩

variable {reader next : ArgumentReader} {line result : CommandLine} {arguments : List Text}

theorem takeOption_eq_ok_iff {name : OptionName} {value : Option Text} :
    reader.takeOption name value = .ok next ↔
      ∃ line, reader.settle = .ok line ∧ Takes line name value next := by
  rw [takeOption.eq_def]
  constructor
  · intro h
    split at h
    · next setting value =>
      obtain ⟨line, hline, h⟩ := bind_eq_ok_iff.1 h
      obtain ⟨result, hresult, h⟩ := bind_eq_ok_iff.1 h
      cases h
      exact ⟨line, hline, .value setting value result hresult⟩
    · next setting =>
      obtain ⟨line, hline, h⟩ := bind_eq_ok_iff.1 h
      cases h
      exact ⟨line, hline, .await setting⟩
    · cases h
    · next f =>
      obtain ⟨line, hline, h⟩ := bind_eq_ok_iff.1 h
      refine ⟨line, hline, ?_⟩
      split at h
      · cases h
      · next hnew =>
        cases h
        exact .flag f hnew
    · obtain ⟨line, -, h⟩ := bind_eq_ok_iff.1 h
      cases h
    · obtain ⟨line, -, h⟩ := bind_eq_ok_iff.1 h
      cases h
  · rintro ⟨line, hline, htakes⟩
    cases htakes with
    | flag f hnew =>
      have hhas : ¬ line.has f = true := hnew
      refine bind_eq_ok_iff.2 ⟨line, hline, ?_⟩
      dsimp only
      rw [if_neg hhas]
      rfl
    | await setting =>
      exact bind_eq_ok_iff.2 ⟨line, hline, rfl⟩
    | value setting value result hresult =>
      exact bind_eq_ok_iff.2 ⟨line, hline, bind_eq_ok_iff.2 ⟨result, hresult, rfl⟩⟩

/-! ## The next argument -/

/-- How the reading of a line comes to a result: the arguments end, two hyphens end them, a file
is to be printed, or an option is taken and the reading goes on. -/
inductive Reads (line : CommandLine) : List Text → CommandLine → Prop where
  | finish {result : CommandLine} (h : check line = .ok result) : Reads line [] result
  | hyphens {result : CommandLine} (h : check line = .ok result) : Reads line ["--".toList] result
  | print {arguments : List Text} {path : Text} {result : CommandLine}
    (hpath : readPath false none arguments = .ok path)
    (h : check { line with printed := some path } = .ok result) :
    Reads line (printName :: arguments) result
  | option {argument : Text} {arguments : List Text} {name : OptionName} {value : Option Text}
    {next : ArgumentReader} {result : CommandLine}
    (hform : Argument.ofText argument = .long name.text value) (htakes : Takes line name value next)
    (h : next.read arguments = .ok result) : Reads line (argument :: arguments) result

theorem beq_names_of_ne_plain {argument : Text} (hform : Argument.ofText argument ≠ .plain) :
    (argument == helpName) = false ∧ (argument == printName) = false := by
  rw [beq_eq_false_iff_ne, beq_eq_false_iff_ne]
  constructor
  · rintro rfl
    exact hform rfl
  · rintro rfl
    exact hform rfl

theorem reads_of_ne_plain {argument : Text} (hform : Argument.ofText argument ≠ .plain)
    (h : reader.read (argument :: arguments) = .ok result) :
    ∃ line, reader.settle = .ok line ∧ Reads line (argument :: arguments) result := by
  obtain ⟨hhelp, hprint⟩ := beq_names_of_ne_plain hform
  rw [read, hhelp, hprint, Bool.and_false, if_neg Bool.false_ne_true,
    if_neg Bool.false_ne_true] at h
  split at h
  · next hseparator =>
    cases arguments with
    | nil =>
      obtain ⟨line, hline, h⟩ := bind_eq_ok_iff.1 h
      rw [Argument.ofText_eq_separator.1 hseparator]
      exact ⟨line, hline, .hyphens h⟩
    | cons argument arguments => cases h
  · next name value hlong =>
    split at h
    · cases h
    · next option hlookup =>
      obtain ⟨next, hnext, h⟩ := bind_eq_ok_iff.1 h
      obtain ⟨line, hline, htakes⟩ := takeOption_eq_ok_iff.1 hnext
      rw [OptionName.lookup_eq_some.1 hlookup] at hlong
      exact ⟨line, hline, .option hlong htakes h⟩
  · next letter hshort =>
    -- The short options ask for help and for the version, and neither gives a line.
    split at h
    · cases h
    · next option hoption =>
      obtain ⟨next, hnext, h⟩ := bind_eq_ok_iff.1 h
      obtain ⟨line, hline, htakes⟩ := takeOption_eq_ok_iff.1 hnext
      rw [shortOption?] at hoption
      split at hoption
      · cases hoption
        cases htakes
      · split at hoption
        · cases hoption
          cases htakes
        · cases hoption
  · next hplain => exact absurd hplain hform

theorem reads_of_plain {argument : Text} (hawaits : reader.awaits = false)
    (hform : Argument.ofText argument = .plain)
    (h : reader.read (argument :: arguments) = .ok result) :
    ∃ line, reader.settle = .ok line ∧ Reads line (argument :: arguments) result := by
  rw [read, hawaits, hform] at h
  split at h
  · cases h
  · split at h
    · next hprint =>
      obtain ⟨path, hpath, h⟩ := bind_eq_ok_iff.1 h
      obtain ⟨line, hline, h⟩ := bind_eq_ok_iff.1 h
      have hname : argument = printName := beq_iff_eq.1 hprint
      rw [hname]
      exact ⟨line, hline, .print hpath h⟩
    · dsimp only at h
      split at h
      · next hpending =>
        rw [awaits, hpending] at hawaits
        cases hawaits
      · cases h

theorem read_eq_ok_iff (hawaits : reader.awaits = false) :
    reader.read arguments = .ok result ↔
      ∃ line, reader.settle = .ok line ∧ Reads line arguments result := by
  constructor
  · intro h
    cases arguments with
    | nil =>
      obtain ⟨line, hline, h⟩ := bind_eq_ok_iff.1 h
      exact ⟨line, hline, .finish h⟩
    | cons argument arguments =>
      by_cases hform : Argument.ofText argument = .plain
      · exact reads_of_plain hawaits hform h
      · exact reads_of_ne_plain hform h
  · rintro ⟨line, hline, hreads⟩
    cases hreads with
    | finish h => exact bind_eq_ok_iff.2 ⟨line, hline, h⟩
    | hyphens h =>
      rw [read, hawaits]
      exact bind_eq_ok_iff.2 ⟨line, hline, h⟩
    | print hpath h =>
      rw [read, hawaits]
      exact bind_eq_ok_iff.2 ⟨_, hpath, bind_eq_ok_iff.2 ⟨line, hline, h⟩⟩
    | option hform htakes h =>
      obtain ⟨hhelp, hprint⟩ := beq_names_of_ne_plain (by rw [hform]; exact nofun)
      rw [read, hhelp, hprint, Bool.and_false, if_neg Bool.false_ne_true,
        if_neg Bool.false_ne_true, hform]
      dsimp only
      rw [OptionName.lookup_eq_some.2 rfl]
      exact bind_eq_ok_iff.2 ⟨_, takeOption_eq_ok_iff.2 ⟨line, hline, htakes⟩, h⟩

theorem read_await_eq_ok_iff {setting : Setting} :
    read ⟨line, some (setting, none)⟩ arguments = .ok result ↔
      ∃ value rest, arguments = value :: rest ∧ Argument.ofText value = .plain ∧
        read ⟨line, some (setting, some value)⟩ rest = .ok result := by
  constructor
  · intro h
    cases arguments with
    | nil => cases h
    | cons value rest =>
      by_cases hform : Argument.ofText value = .plain
      · rw [read, hform] at h
        exact ⟨value, rest, rfl, hform, h⟩
      · obtain ⟨line, hline, -⟩ := reads_of_ne_plain hform h
        cases hline
  · rintro ⟨value, rest, rfl, hform, h⟩
    rw [read, hform]
    exact h

/-! ## The next option -/

theorem read_none_iff : read ⟨line, none⟩ arguments = .ok result ↔ Reads line arguments result := by
  rw [read_eq_ok_iff rfl]
  constructor
  · rintro ⟨line, hline, h⟩
    cases hline
    exact h
  · exact fun h => ⟨line, rfl, h⟩

theorem read_some_iff {setting : Setting} {value : Text} :
    read ⟨line, some (setting, some value)⟩ arguments = .ok result ↔
      ¬ line.Given (.setting setting) ∧ setting.Accepts value ∧
        Reads (line.choose setting value) arguments result := by
  rw [read_eq_ok_iff rfl]
  constructor
  · rintro ⟨line, hline, h⟩
    obtain ⟨hnew, haccepts, rfl⟩ := give_eq_ok_iff.1 hline
    exact ⟨hnew, haccepts, h⟩
  · rintro ⟨hnew, haccepts, h⟩
    exact ⟨_, give_eq_ok_iff.2 ⟨hnew, haccepts, rfl⟩, h⟩

theorem exists_option_of_takes {argument : Text} {name : OptionName} {value : Option Text}
    (hform : Argument.ofText argument = .long name.text value) (htakes : Takes line name value next)
    (h : next.read arguments = .ok result) :
    ∃ option : WrittenOption, ∃ rest, option.Proper ∧ ¬ line.Given option.name ∧
      argument :: arguments = option.arguments ++ rest ∧
      Reads (line.record option) rest result := by
  have hargument := Argument.eq_of_ofText_long hform
  cases htakes with
  | flag f hnew =>
    rw [Option.map_none, Option.getD_none, List.append_nil] at hargument
    rw [hargument]
    exact ⟨.flag f, arguments, trivial, hnew, rfl, read_none_iff.1 h⟩
  | await setting =>
    obtain ⟨value, rest, rfl, hplain, h⟩ := read_await_eq_ok_iff.1 h
    obtain ⟨hnew, haccepts, h⟩ := read_some_iff.1 h
    rw [Option.map_none, Option.getD_none, List.append_nil] at hargument
    rw [hargument]
    exact ⟨.apart setting value, rest, ⟨haccepts, hplain⟩, hnew, rfl, h⟩
  | value setting value line' hgive =>
    obtain ⟨hnew, haccepts, rfl⟩ := give_eq_ok_iff.1 hgive
    rw [hargument]
    exact ⟨.joined setting value, arguments, haccepts, hnew, rfl, read_none_iff.1 h⟩

theorem reads_option {option : WrittenOption} (hproper : option.Proper)
    (hnew : ¬ line.Given option.name) (h : Reads (line.record option) arguments result) :
    Reads line (option.arguments ++ arguments) result := by
  cases option with
  | flag f =>
    have hform := Argument.ofText_long (OptionName.text_ne_nil (.flag f))
    rw [Text.cut_eq_of_notMem (OptionName.equals_notMem_text _)] at hform
    exact .option hform (.flag f hnew) (read_none_iff.2 h)
  | joined setting value =>
    have hwritten : (OptionName.setting setting).text ++ '=' :: value ≠ [] :=
      List.append_ne_nil_of_right_ne_nil _ (List.cons_ne_nil _ _)
    have hform := Argument.ofText_long hwritten
    rw [Text.cut_append_cons (OptionName.equals_notMem_text _)] at hform
    exact .option hform (.value setting value _ (give_eq_ok_iff.2 ⟨hnew, hproper, rfl⟩))
      (read_none_iff.2 h)
  | apart setting value =>
    have hform := Argument.ofText_long (OptionName.text_ne_nil (.setting setting))
    rw [Text.cut_eq_of_notMem (OptionName.equals_notMem_text _)] at hform
    exact .option hform (.await setting) (read_await_eq_ok_iff.2
      ⟨value, arguments, rfl, hproper.2, read_some_iff.2 ⟨hnew, hproper.1, h⟩⟩)

/-! ## The path to print -/

theorem printedPath_eq_ok_iff {path : Option Text} {file : Text} :
    printedPath path = .ok file ↔ path = some file ∧ file ≠ [] := by
  cases path with
  | none => simp [printedPath]
  | some path => cases path <;> cases file <;> simp [printedPath]

theorem readPath_separated_eq_ok_iff {path : Option Text} {file : Text} :
    readPath true path arguments = .ok file ↔ path.toList ++ arguments = [file] ∧ file ≠ [] := by
  induction arguments generalizing path with
  | nil =>
    rw [readPath.eq_def, printedPath_eq_ok_iff, List.append_nil, Option.toList_eq_singleton_iff]
  | cons argument arguments ih =>
    rw [readPath.eq_def]
    cases path with
    | none => exact ih
    | some path => exact ⟨nofun, fun h => nomatch h.1⟩

theorem readPath_cons_eq_ok_iff {path : Option Text} {argument file : Text} :
    readPath false path (argument :: arguments) = .ok file ↔
      argument = "--".toList ∧ readPath true path arguments = .ok file ∨
      path = none ∧ Argument.ofText argument = .plain ∧
        readPath false (some argument) arguments = .ok file := by
  rw [readPath.eq_def, ← Argument.ofText_eq_separator]
  dsimp only
  rw [if_neg Bool.false_ne_true]
  cases Argument.ofText argument with
  | separator => simp
  | long name value =>
    dsimp only
    split <;> simp
  | short letter =>
    dsimp only
    split <;> simp
  | plain => cases path <;> simp

theorem exists_ending_of_readPath {file : Text} (h : readPath false none arguments = .ok file) :
    ∃ ending : WrittenEnd, ending.Proper ∧ printName :: arguments = ending.arguments ∧
      ∀ line, ending.close line = { line with printed := some file } := by
  cases arguments with
  | nil => cases h
  | cons argument arguments =>
    obtain ⟨rfl, h⟩ | ⟨-, hplain, h⟩ := readPath_cons_eq_ok_iff.1 h
    · obtain ⟨rfl, hfile⟩ := readPath_separated_eq_ok_iff.1 h
      exact ⟨.hyphensPath file, hfile, rfl, fun _ => rfl⟩
    · cases arguments with
      | nil =>
        obtain ⟨hpath, hfile⟩ := printedPath_eq_ok_iff.1 h
        cases hpath
        exact ⟨.path file, ⟨hfile, hplain⟩, rfl, fun _ => rfl⟩
      | cons second arguments =>
        obtain ⟨rfl, h⟩ | ⟨hpath, -⟩ := readPath_cons_eq_ok_iff.1 h
        · obtain ⟨hrow, hfile⟩ := readPath_separated_eq_ok_iff.1 h
          cases hrow
          exact ⟨.pathHyphens file, ⟨hfile, hplain⟩, rfl, fun _ => rfl⟩
        · cases hpath

/-! ## Whole lines -/

theorem check_eq_ok_iff : check line = .ok result ↔ line = result ∧
    ¬ (line.Given (.flag .stdio) ∧ line.Given (.flag .socket)) ∧
    (line.Given (.setting .port) → line.Given (.flag .socket) ∨ line.Given (.flag .stdio)) := by
  have hexcluded : line.Excludes (.flag .socket) ↔ line.Given (.flag .stdio) := by
    simp [CommandLine.Excludes, OptionName.conflicts]
  have hconflict : (∃ pair ∈ OptionName.conflicts, line.Given pair.1 ∧ line.Given pair.2) ↔
      line.Given (.flag .stdio) ∧ line.Given (.flag .socket) := by
    simp [OptionName.conflicts]
  have hmissing : (∃ pair ∈ OptionName.requirements,
      line.Given pair.1 ∧ ¬ line.Given pair.2 ∧ ¬ line.Excludes pair.2) ↔
        line.Given (.setting .port) ∧ ¬ line.Given (.flag .socket) ∧
          ¬ line.Given (.flag .stdio) := by
    simp [OptionName.requirements, hexcluded]
  rw [check]
  split
  · next h => exact ⟨nofun, fun hline => absurd (hconflict.1 h) hline.2.1⟩
  · next hnone =>
    rw [hconflict] at hnone
    split
    · next h =>
      obtain ⟨hport, hsocket, hstdio⟩ := hmissing.1 h
      exact ⟨nofun, fun hline => (hline.2.2 hport).elim (absurd · hsocket) (absurd · hstdio)⟩
    · next hall =>
      rw [hmissing] at hall
      refine ⟨fun h => ⟨Except.ok.inj h, hnone, fun hport => ?_⟩, fun h => congrArg _ h.1⟩
      by_cases hsocket : line.Given (.flag .socket)
      · exact .inl hsocket
      · exact .inr (Decidable.byContradiction fun hstdio => hall ⟨hport, hsocket, hstdio⟩)

theorem reads_ending {ending : WrittenEnd} (hproper : ending.Proper)
    (h : check (ending.close line) = .ok result) : Reads line ending.arguments result := by
  cases ending with
  | nothing => exact .finish h
  | hyphens => exact .hyphens h
  | path file =>
    refine .print (readPath_cons_eq_ok_iff.2 (.inr ⟨rfl, hproper.2, ?_⟩)) h
    exact printedPath_eq_ok_iff.2 ⟨rfl, hproper.1⟩
  | pathHyphens file =>
    refine .print (readPath_cons_eq_ok_iff.2 (.inr ⟨rfl, hproper.2, ?_⟩)) h
    exact readPath_cons_eq_ok_iff.2 (.inl ⟨rfl, printedPath_eq_ok_iff.2 ⟨rfl, hproper.1⟩⟩)
  | hyphensPath file =>
    refine .print (readPath_cons_eq_ok_iff.2 (.inl ⟨rfl, ?_⟩)) h
    exact readPath_separated_eq_ok_iff.2 ⟨rfl, hproper⟩

theorem exists_part_of_reads (h : Reads line arguments result) :
    (∃ ending : WrittenEnd, ending.Proper ∧ arguments = ending.arguments ∧
      check (ending.close line) = .ok result) ∨
    ∃ option : WrittenOption, ∃ rest, option.Proper ∧ ¬ line.Given option.name ∧
      arguments = option.arguments ++ rest ∧ Reads (line.record option) rest result := by
  cases h with
  | finish h => exact .inl ⟨.nothing, trivial, rfl, h⟩
  | hyphens h => exact .inl ⟨.hyphens, trivial, rfl, h⟩
  | print hpath h =>
    obtain ⟨ending, hproper, hwritten, hclose⟩ := exists_ending_of_readPath hpath
    exact .inl ⟨ending, hproper, hwritten, by rwa [hclose]⟩
  | option hform htakes h => exact .inr (exists_option_of_takes hform htakes h)

theorem length_lt_of_option (option : WrittenOption) (rest : List Text) :
    rest.length < (option.arguments ++ rest).length := by
  rw [List.length_append]
  cases option <;> simp [WrittenOption.arguments]

/-- **Nothing but written lines is read.**  The options that follow one of them meet a line in
which it has been given, so none of them has its name. -/
theorem exists_written_of_reads (h : Reads line arguments result) :
    ∃ options : List WrittenOption, ∃ ending : WrittenEnd,
      arguments = options.flatMap WrittenOption.arguments ++ ending.arguments ∧
      (∀ option ∈ options, option.Proper ∧ ¬ line.Given option.name) ∧
      (options.map WrittenOption.name).Nodup ∧ ending.Proper ∧
      check (ending.close (options.foldl CommandLine.record line)) = .ok result := by
  induction hlength : arguments.length using Nat.strongRecOn generalizing arguments line with
  | ind length ih =>
    obtain ⟨ending, hproper, hwritten, hcheck⟩ | ⟨option, rest, hproper, hnew, rfl, hrest⟩ :=
      exists_part_of_reads h
    · exact ⟨[], ending, hwritten, nofun, .nil, hproper, hcheck⟩
    · obtain ⟨options, ending, rfl, hoptions, hnodup, hending, hcheck⟩ :=
        ih rest.length (hlength ▸ length_lt_of_option option rest) hrest rfl
      refine ⟨option :: options, ending, (List.append_assoc _ _ _).symm, ?_, ?_, hending, hcheck⟩
      · intro other hother
        rcases List.mem_cons.1 hother with rfl | hother
        · exact ⟨hproper, hnew⟩
        · obtain ⟨hother, hlater⟩ := hoptions other hother
          exact ⟨hother, fun h => hlater ((CommandLine.given_record hproper other.name).2 (.inl h))⟩
      · rw [List.map_cons, List.nodup_cons]
        refine ⟨fun hmem => ?_, hnodup⟩
        obtain ⟨other, hother, hname⟩ := List.mem_map.1 hmem
        exact (hoptions other hother).2 ((CommandLine.given_record hproper _).2 (.inr hname))

/-- **Every written line is read.** -/
theorem reads_written {options : List WrittenOption} {ending : WrittenEnd}
    (hoptions : ∀ option ∈ options, option.Proper ∧ ¬ line.Given option.name)
    (hnodup : (options.map WrittenOption.name).Nodup) (hending : ending.Proper)
    (hcheck : check (ending.close (options.foldl CommandLine.record line)) = .ok result) :
    Reads line (options.flatMap WrittenOption.arguments ++ ending.arguments) result := by
  induction options generalizing line with
  | nil => exact reads_ending hending hcheck
  | cons option options ih =>
    obtain ⟨hproper, hnew⟩ := hoptions option List.mem_cons_self
    rw [List.map_cons, List.nodup_cons] at hnodup
    rw [List.flatMap_cons, List.append_assoc]
    refine reads_option hproper hnew (ih (fun other hother => ?_) hnodup.2 hcheck)
    refine ⟨(hoptions other (List.mem_cons_of_mem _ hother)).1, ?_⟩
    rw [CommandLine.given_record hproper]
    rintro (hgiven | hname)
    · exact (hoptions other (List.mem_cons_of_mem _ hother)).2 hgiven
    · exact hnodup.1 (hname ▸ List.mem_map_of_mem hother)

theorem parse_eq_ok_iff : CommandLine.parse arguments = .ok result ↔
    ∃ written : WrittenLine, written.Proper ∧ written.arguments = arguments ∧
      check written.chosen = .ok result := by
  rw [CommandLine.parse, read_none_iff]
  constructor
  · intro h
    obtain ⟨options, ending, rfl, hoptions, hnodup, hending, hcheck⟩ := exists_written_of_reads h
    exact ⟨⟨options, ending⟩, ⟨fun option h => (hoptions option h).1, hnodup, hending⟩, rfl, hcheck⟩
  · rintro ⟨written, hproper, rfl, hcheck⟩
    have hoptions : ∀ option ∈ written.options,
        option.Proper ∧ ¬ CommandLine.empty.Given option.name := fun option hoption =>
      ⟨hproper.options option hoption, CommandLine.not_given_empty option.name⟩
    exact reads_written hoptions hproper.once hproper.ending hcheck

end ArgumentReader

/-- **Transport options.** A command line is accepted if it is a row of options, each at most once
and with a value that it accepts, and an end, if the standard streams and a socket are not both
among them, and if with a port there is a socket or the standard streams.  What has been given is
then what was written. -/
theorem accepted_transports (arguments : List Text) (line : CommandLine) :
    CommandLine.parse arguments = .ok line ↔ ∃ written : WrittenLine,
      written.Proper ∧ written.arguments = arguments ∧ written.chosen = line ∧
      (∀ name, line.Given name ↔ written.Names name) ∧
      ¬ (written.Names (.flag .stdio) ∧ written.Names (.flag .socket)) ∧
      (written.Names (.setting .port) →
        written.Names (.flag .socket) ∨ written.Names (.flag .stdio)) := by
  rw [ArgumentReader.parse_eq_ok_iff]
  refine exists_congr fun written => and_congr_right fun hproper => and_congr_right fun _ => ?_
  rw [ArgumentReader.check_eq_ok_iff]
  constructor
  · rintro ⟨rfl, hagree⟩
    simp only [hproper.given_chosen] at hagree
    exact ⟨rfl, hproper.given_chosen, hagree⟩
  · rintro ⟨rfl, hgiven, hagree⟩
    simp only [← hgiven] at hagree
    exact ⟨rfl, hagree⟩

/-- The standard streams let a port pass that nothing listens on. -/
theorem port_accepted_beside_standard_streams :
    ¬ ∀ (arguments : List Text) (line : CommandLine), CommandLine.parse arguments = .ok line →
      ¬ (line.has .stdio = true ∧ line.has .socket = true) ∧
        (line.port.isSome = true → line.has .socket = true) := by
  intro h
  have hparse : CommandLine.parse ["--stdio".toList, "--port".toList, "5".toList] =
      .ok { CommandLine.empty with flags := [.stdio], port := some 5 } := rfl
  have hsocket := (h _ _ hparse).2 rfl
  cases hsocket

end DawnServer
