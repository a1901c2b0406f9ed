import DawnServer.Framework.Source
import DawnServer.Proofs.Framework.Tables
import DawnServer.Proofs.Text.Trimming

/-!
# The tables that framework files declare

Reading a framework file gives tables of one kind only (`Table.Declarable`): the reader keeps
them so with every line (`FrameworkReader.Sound.take`).  An open category takes the first word
of each line that does not close it (`FrameworkReader.takeLines_open`), so every table of that
kind is declared by a file in canonical form, category after category, and is read back from it
(`declarable_tables`).
-/

namespace DawnServer

open Text

namespace Table

/-- A name that a header can give to a category. -/
structure IsName (name : Text) : Prop where
  no_space : ' ' ∉ name
  no_feed : '\n' ∉ name
  front : ∀ c ∈ name.head?, isBlank c = false

/-- A member that a line can add to a category. -/
structure IsMember (member : Text) : Prop where
  no_space : ' ' ∉ member
  no_feed : '\n' ∉ member
  trimmed : Trimmed member
  no_close : member ≠ [';']

instance (name : Text) : Decidable (IsName name) :=
  decidable_of_iff (' ' ∉ name ∧ '\n' ∉ name ∧ name.head?.all (!isBlank ·))
    ⟨fun h => ⟨h.1, h.2.1, all_not_isBlank.1 h.2.2⟩,
      fun h => ⟨h.no_space, h.no_feed, all_not_isBlank.2 h.front⟩⟩

instance (member : Text) : Decidable (IsMember member) :=
  decidable_of_iff (' ' ∉ member ∧ '\n' ∉ member ∧ Trimmed member ∧ member ≠ [';'])
    ⟨fun h => ⟨h.1, h.2.1, h.2.2.1, h.2.2.2⟩,
      fun h => ⟨h.no_space, h.no_feed, h.trimmed, h.no_close⟩⟩

/-- A table that a framework file can declare.  The category without a name has no members. -/
structure Declarable (table : Table) : Prop where
  names : ∀ category ∈ table.categories, IsName category.1
  members : ∀ category ∈ table.categories, ∀ member ∈ category.2, IsMember member
  unnamed : ∀ category ∈ table.categories, category.1 = [] → category.2 = []

instance (table : Table) : Decidable (Declarable table) :=
  decidable_of_iff ((∀ category ∈ table.categories, IsName category.1) ∧
      (∀ category ∈ table.categories, ∀ member ∈ category.2, IsMember member) ∧
      ∀ category ∈ table.categories, category.1 = [] → category.2 = [])
    ⟨fun h => ⟨h.1, h.2.1, h.2.2⟩, fun h => ⟨h.names, h.members, h.unnamed⟩⟩

/-! ## Tables that grow -/

theorem mem_insertIn {name : Text} {members : List Text} {categories : List Category}
    {category : Category} (h : category ∈ insertIn name members categories) :
    category = (name, members) ∨ category ∈ categories := by
  induction categories with
  | nil => exact .inl (List.mem_singleton.1 h)
  | cons first categories ih =>
    obtain ⟨key, old⟩ := first
    rw [insertIn] at h
    split at h
    · exact List.mem_cons.1 h
    · split at h
      · rcases List.mem_cons.1 h with rfl | h
        · exact .inr List.mem_cons_self
        · exact (ih h).imp_right (List.mem_cons_of_mem _)
      · exact (List.mem_cons.1 h).imp_right (List.mem_cons_of_mem _)

theorem mem_of_membersIn? {name : Text} {members : List Text} {categories : List Category}
    (h : membersIn? name categories = some members) : (name, members) ∈ categories := by
  induction categories with
  | nil => cases h
  | cons first categories ih =>
    obtain ⟨key, old⟩ := first
    rw [membersIn?] at h
    split at h
    · next hkey =>
      cases h
      rw [hkey]
      exact List.mem_cons_self
    · exact List.mem_cons_of_mem _ (ih h)

theorem insertIn_insertIn (name : Text) (old members : List Text) (categories : List Category) :
    insertIn name members (insertIn name old categories) = insertIn name members categories := by
  have hself : ¬ name < name := List.lt_irrefl name
  induction categories with
  | nil => simp only [insertIn, if_neg hself]
  | cons first categories ih =>
    obtain ⟨key, others⟩ := first
    by_cases hlt : name < key
    · simp only [insertIn, if_pos hlt, if_neg hself]
    · by_cases hgt : key < name
      · simp only [insertIn, if_neg hlt, if_pos hgt, ih]
      · simp only [insertIn, if_neg hlt, if_neg hgt, if_neg hself]

theorem insert_insert (table : Table) (name : Text) (old members : List Text) :
    (table.insert name old).insert name members = table.insert name members := by
  simp only [insert, insertIn_insertIn]

theorem members_insert_self (table : Table) (name : Text) (members : List Text) :
    (table.insert name members).members name = members := by
  rw [Table.members, members?_insert_self, Option.getD_some]

theorem members?_insert (table : Table) (name : Text) (members : List Text) (other : Text) :
    (table.insert name members).members? other =
      if name = other then some members else table.members? other := by
  by_cases h : name = other
  · rw [if_pos h, ← h, members?_insert_self]
  · rw [if_neg h, members?_insert_of_ne h]

theorem has_insert (table : Table) (name : Text) (members : List Text) :
    (table.insert name members).has name := by
  rw [has, members?_insert_self, Option.isSome_some]

theorem members?_of_has {table : Table} {name : Text} (h : table.has name) :
    table.members? name = some (table.members name) := by
  obtain ⟨members, hmembers⟩ := Option.isSome_iff_exists.1 h
  rw [Table.members, hmembers, Option.getD_some]

theorem insertIn_of_membersIn? {name : Text} {members : List Text} {categories : List Category}
    (hordered : categories.Pairwise fun a b => a.1 < b.1)
    (h : membersIn? name categories = some members) :
    insertIn name members categories = categories := by
  induction categories with
  | nil => cases h
  | cons first categories ih =>
    obtain ⟨key, old⟩ := first
    obtain ⟨hfirst, hrest⟩ := List.pairwise_cons.1 hordered
    rw [membersIn?] at h
    split at h
    · next hkey =>
      cases h
      have hself : ¬ name < name := List.lt_irrefl name
      rw [hkey, insertIn, if_neg hself, if_neg hself]
    · have hlt : key < name := hfirst (name, members) (mem_of_membersIn? h)
      rw [insertIn, if_neg (List.lt_asymm hlt), if_pos hlt, ih hrest h]

theorem insert_members {table : Table} {name : Text} (h : table.has name) :
    table.insert name (table.members name) = table := by
  obtain ⟨categories, hordered⟩ := table
  have hcategories := insertIn_of_membersIn? hordered (members?_of_has h)
  simp only [insert, hcategories]

namespace Declarable

variable {table : Table} {name : Text}

theorem insert (h : table.Declarable) (hname : IsName name) {members : List Text}
    (hmembers : ∀ member ∈ members, IsMember member) (hunnamed : name = [] → members = []) :
    (table.insert name members).Declarable := by
  refine ⟨fun category hcategory => ?_, fun category hcategory => ?_, fun category hcategory => ?_⟩
  · rcases mem_insertIn hcategory with rfl | hold
    · exact hname
    · exact h.names category hold
  · rcases mem_insertIn hcategory with rfl | hold
    · exact hmembers
    · exact h.members category hold
  · rcases mem_insertIn hcategory with rfl | hold
    · exact hunnamed
    · exact h.unnamed category hold

theorem append (h : table.Declarable) (hname : IsName name) (hne : name ≠ []) {member : Text}
    (hmember : IsMember member) : (table.append name member).Declarable := by
  refine h.insert hname ?_ fun hempty => absurd hempty hne
  intro other hother
  rcases List.mem_append.1 hother with hold | hnew
  · cases hmembers : table.members? name with
    | none =>
      rw [Table.members, hmembers] at hold
      cases hold
    | some members =>
      rw [Table.members, hmembers] at hold
      exact h.members (name, members) (mem_of_membersIn? hmembers) other hold
  · rwa [List.mem_singleton.1 hnew]

end Declarable

end Table

/-! ## What the reader keeps -/

namespace FrameworkReader

open Table

/-- What has been read is a table that can be declared, and an open category has a name. -/
structure Sound (reader : FrameworkReader) : Prop where
  table : reader.table.Declarable
  current : ∀ name ∈ reader.current, IsName name ∧ name ≠ []

/-- **The reader stays sound with every word.** -/
theorem Sound.take {reader : FrameworkReader} (h : reader.Sound) {word : Text}
    (hspace : ' ' ∉ word) (hfeed : '\n' ∉ word) (htrimmed : Trimmed word) :
    (reader.take word).Sound := by
  obtain ⟨table, _ | name⟩ := reader
  · cases hdrop : dropLast? ':' word with
    | none => simpa only [FrameworkReader.take, hdrop] using h
    | some name =>
      have hword : word = name ++ [':'] := dropLast?_eq_some.1 hdrop
      have hname : IsName name := by
        refine ⟨fun hmem => hspace ?_, fun hmem => hfeed ?_, fun c hc => htrimmed.front c ?_⟩
        · rw [hword]
          exact List.mem_append_left _ hmem
        · rw [hword]
          exact List.mem_append_left _ hmem
        · rw [hword, List.head?_append, Option.mem_def.1 hc]
          rfl
      simp only [FrameworkReader.take, hdrop]
      refine ⟨h.table.insert hname nofun fun _ => rfl, fun other hother => ?_⟩
      cases hempty : name.isEmpty with
      | true => simp [hempty] at hother
      | false =>
        simp only [hempty, Bool.false_eq_true, if_false, Option.mem_some_iff] at hother
        subst hother
        exact ⟨hname, List.isEmpty_eq_false_iff.1 hempty⟩
  · obtain ⟨hname, hne⟩ := h.current name rfl
    by_cases hclose : word = [';']
    · simp only [FrameworkReader.take, if_pos hclose]
      exact ⟨h.table, nofun⟩
    · simp only [FrameworkReader.take, if_neg hclose]
      exact ⟨h.table.append hname hne ⟨hspace, hfeed, htrimmed, hclose⟩, h.current⟩

theorem Sound.takeLines {reader : FrameworkReader} (h : reader.Sound) {lines : List Text}
    (hlines : ∀ line ∈ lines, '\n' ∉ line) : (reader.takeLines lines).Sound := by
  induction lines generalizing reader with
  | nil => exact h
  | cons line lines ih =>
    have hword : ∀ c ∈ firstWord line, c ≠ ' ' ∧ c ∈ line := by
      intro c hc
      obtain ⟨hspace, hcut⟩ := mem_of_mem_cut (mem_of_mem_trim hc)
      exact ⟨hspace, mem_of_mem_dropLastOf hcut⟩
    rw [takeLines_cons]
    apply ih
    · apply h.take
      · exact fun hmem => (hword ' ' hmem).1 rfl
      · exact fun hmem => hlines line List.mem_cons_self (hword '\n' hmem).2
      · exact trimmed_trim _
    · exact fun other hother => hlines other (List.mem_cons_of_mem _ hother)

theorem sound_read (source : Text) : (read source).Sound := by
  have hstart : start.Sound := by
    refine ⟨⟨?_, ?_, ?_⟩, ?_⟩ <;> simp [start, Table.empty]
  exact hstart.takeLines fun line hline => notMem_of_mem_splitOn hline

/-! ## Reading with a category open -/

def keepsOpen (line : Text) : Bool := firstWord line != [';']

theorem takeLines_open {table : Table} {name : Text} (h : table.has name) {lines : List Text}
    (hlines : ∀ line ∈ lines, keepsOpen line = true) :
    takeLines ⟨table, some name⟩ lines =
      ⟨table.insert name (table.members name ++ lines.map firstWord), some name⟩ := by
  induction lines generalizing table with
  | nil => rw [takeLines_nil, List.map_nil, List.append_nil, Table.insert_members h]
  | cons line lines ih =>
    obtain ⟨hline, hrest⟩ := List.forall_mem_cons.1 hlines
    have hopen : firstWord line ≠ [';'] := bne_iff_ne.1 hline
    have hbehind := ih (table.has_insert name (table.members name ++ [firstWord line])) hrest
    rw [members_insert_self, insert_insert] at hbehind
    rw [takeLines_cons, FrameworkReader.take]
    simp only [if_neg hopen]
    rw [Table.append, hbehind, List.map_cons, List.append_assoc, List.singleton_append]

/-! ## Reading the canonical form -/

theorem firstWord_eq_self {word : Text} (hspace : ' ' ∉ word) (h : Trimmed word) :
    firstWord word = word := by
  have hdrop : dropLastOf '\r' word = word := by
    cases hlast : dropLast? '\r' word with
    | none => rw [dropLastOf, hlast]; rfl
    | some rest =>
      -- A carriage return at the end would be white space there.
      have hback := h.back '\r' (by rw [dropLast?_eq_some.1 hlast]; simp)
      exact absurd hback (by decide)
  rw [firstWord, hdrop, cut_of_notMem hspace, h.trim_eq]

theorem firstWord_header {name : Text} (h : IsName name) :
    firstWord (name ++ [':']) = name ++ [':'] := by
  apply firstWord_eq_self
  · simp [h.no_space]
  · constructor
    · intro c hc
      cases name with
      | nil =>
        cases hc
        decide
      | cons d name => exact h.front c hc
    · intro c hc
      rw [List.getLast?_concat] at hc
      cases hc
      decide

theorem takeLines_members {name : Text} (table : Table) (before : List Text)
    {members : List Text} (h : ∀ member ∈ members, IsMember member) :
    takeLines ⟨table.insert name before, some name⟩ members =
      ⟨table.insert name (before ++ members), some name⟩ := by
  have hfirst : ∀ member ∈ members, firstWord member = member := fun member hmember =>
    firstWord_eq_self (h member hmember).no_space (h member hmember).trimmed
  have hopen : ∀ member ∈ members, keepsOpen member = true := by
    intro member hmember
    rw [keepsOpen, hfirst member hmember]
    exact bne_iff_ne.2 (h member hmember).no_close
  have hwords : members.map firstWord = members :=
    (List.map_congr_left hfirst).trans (List.map_id members)
  rw [takeLines_open (table.has_insert name before) hopen, hwords, members_insert_self,
    insert_insert]

theorem takeLines_categoryLines (table : Table) {category : Category} (hname : IsName category.1)
    (hmembers : ∀ member ∈ category.2, IsMember member)
    (hunnamed : category.1 = [] → category.2 = []) :
    takeLines ⟨table, none⟩ (categoryLines category) =
      ⟨table.insert category.1 category.2, none⟩ := by
  obtain ⟨name, members⟩ := category
  have hclose : firstWord [';'] = [';'] := by decide
  rw [categoryLines, takeLines_cons, firstWord_header hname, FrameworkReader.take]
  simp only [dropLast?_append]
  by_cases hempty : name = []
  · -- The category without a name is never open, and the semicolon closes nothing.
    subst hempty
    have hnone : members = [] := hunnamed rfl
    subst hnone
    rw [List.nil_append, takeLines_cons, hclose]
    rfl
  · rw [List.isEmpty_eq_false_iff.2 hempty, if_neg Bool.false_ne_true, takeLines_append,
      takeLines_members table [] hmembers, List.nil_append, takeLines_cons, hclose,
      FrameworkReader.take]
    simp

theorem takeLines_categories (table : Table) {categories : List Category}
    (hnames : ∀ category ∈ categories, IsName category.1)
    (hmembers : ∀ category ∈ categories, ∀ member ∈ category.2, IsMember member)
    (hunnamed : ∀ category ∈ categories, category.1 = [] → category.2 = []) :
    takeLines ⟨table, none⟩ (categories.flatMap categoryLines) =
      ⟨categories.foldl (fun table category => table.insert category.1 category.2) table, none⟩ := by
  induction categories generalizing table with
  | nil => rfl
  | cons category categories ih =>
    rw [List.flatMap_cons, takeLines_append, takeLines_categoryLines table
      (hnames _ List.mem_cons_self) (hmembers _ List.mem_cons_self)
      (hunnamed _ List.mem_cons_self), List.foldl_cons]
    exact ih _ (fun other h => hnames other (List.mem_cons_of_mem _ h))
      (fun other h => hmembers other (List.mem_cons_of_mem _ h))
      (fun other h => hunnamed other (List.mem_cons_of_mem _ h))

end FrameworkReader

namespace Table

theorem no_feed_of_mem_categoryLines {category : Category} (hname : IsName category.1)
    (hmembers : ∀ member ∈ category.2, IsMember member) :
    ∀ line ∈ categoryLines category, '\n' ∉ line := by
  intro line hline
  rcases List.mem_cons.1 hline with rfl | hline
  · simp [hname.no_feed]
  rcases List.mem_append.1 hline with hline | hline
  · exact (hmembers line hline).no_feed
  · rw [List.mem_singleton.1 hline]
    decide

theorem parse_render {table : Table} (h : table.Declarable) : parse table.render = table := by
  have hlines : ∀ line ∈ table.categories.flatMap categoryLines, '\n' ∉ line := by
    intro line hline
    obtain ⟨category, hcategory, hline⟩ := List.mem_flatMap.1 hline
    exact no_feed_of_mem_categoryLines (h.names _ hcategory) (h.members _ hcategory) line hline
  have hread := FrameworkReader.takeLines_categories empty h.names h.members h.unnamed
  have hfold : table.categories.foldl (fun table category => table.insert category.1 category.2)
      empty = table := ofList_categories table
  rw [parse, FrameworkReader.read, render, splitOn_flatMap hlines,
    FrameworkReader.takeLines_append, FrameworkReader.start, hread, hfold]
  rfl

end Table

/-- **The tables that framework files declare.**  They are those whose category names hold
neither a space nor a line feed and do not begin with white space, whose members hold neither,
have no white space at either end and are no semicolon, and in which the category without a
name has no members.  Each of them is read back from its canonical form, and so is what any
text declares. -/
theorem declarable_tables :
    (∀ table : Table, (∃ source, Table.parse source = table) ↔ table.Declarable) ∧
      (∀ table : Table, table.Declarable → Table.parse table.render = table) ∧
      ∀ source, Table.parse (Table.parse source).render = Table.parse source := by
  have hparse (source : Text) : (Table.parse source).Declarable :=
    (FrameworkReader.sound_read source).table
  refine ⟨fun table => ⟨?_, fun h => ⟨table.render, Table.parse_render h⟩⟩,
    fun table h => Table.parse_render h, fun source => Table.parse_render (hparse source)⟩
  rintro ⟨source, rfl⟩
  exact hparse source

theorem declarable_tables_unnamed :
    (Table.ofList [([], []), ("a\t".toList, ["say:".toList, []])]).Declarable ∧
      (∃ source, Table.parse source = Table.ofList [([], []), ("a\t".toList, ["say:".toList, []])]) ∧
      Table.parse ":\n;\na\t:\nsay:\n\n;\n".toList =
        Table.ofList [([], []), ("a\t".toList, ["say:".toList, []])] := by
  have hdeclarable :
      (Table.ofList [([], []), ("a\t".toList, ["say:".toList, []])]).Declarable := by
    decide +kernel
  have hrender : (Table.ofList [([], []), ("a\t".toList, ["say:".toList, []])]).render =
      ":\n;\na\t:\nsay:\n\n;\n".toList := by
    decide +kernel
  have hparse := declarable_tables.2.1 _ hdeclarable
  rw [hrender] at hparse
  exact ⟨hdeclarable, (declarable_tables.1 _).2 hdeclarable, hparse⟩

end DawnServer
