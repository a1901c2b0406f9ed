import DawnServer.Completion
import Mathlib.Data.List.Induction
import Mathlib.Data.List.Nodup

/-!
# What a document offers

The one pass over the groups of names keeps what it has seen of each group apart, so that what
it offers for a group does not hang on the groups before (`CompletionItem.Gathering.Shows`).
A document therefore offers the names of each kind, each at its first place, kind by kind, and
nothing else (`items_in_order_once`).
-/

namespace DawnServer

/-! ## First places -/

theorem eraseDups_concat (labels : List Text) (label : Text) :
    (labels ++ [label]).eraseDups =
      if label ∈ labels then labels.eraseDups else labels.eraseDups ++ [label] := by
  rw [List.eraseDups_append]
  by_cases hlabel : label ∈ labels
  · simp [List.removeAll, hlabel]
  · simp [List.removeAll, hlabel, List.eraseDups_cons]

theorem pairwise_idxOf_eraseDups (labels : List Text) :
    labels.eraseDups.Pairwise fun a b => labels.idxOf a < labels.idxOf b := by
  induction labels using List.reverseRecOn with
  | nil => exact .nil
  | append_singleton labels label ih =>
    have hkept : labels.eraseDups.Pairwise fun a b =>
        (labels ++ [label]).idxOf a < (labels ++ [label]).idxOf b := by
      refine ih.imp_of_mem fun ha hb h => ?_
      rwa [List.idxOf_append_of_mem (List.mem_eraseDups.1 ha),
        List.idxOf_append_of_mem (List.mem_eraseDups.1 hb)]
    rw [eraseDups_concat]
    by_cases hlabel : label ∈ labels
    · rw [if_pos hlabel]
      exact hkept
    · rw [if_neg hlabel, List.pairwise_append]
      refine ⟨hkept, List.pairwise_singleton _ _, fun a ha b hb => ?_⟩
      have hmem : a ∈ labels := List.mem_eraseDups.1 ha
      rw [List.mem_singleton.1 hb, List.idxOf_append_of_mem hmem,
        List.idxOf_append_of_notMem hlabel]
      exact Nat.lt_add_right _ (List.idxOf_lt_length_of_mem hmem)

namespace CompletionItem

/-- The items of one group by itself: its names, each at its first place. -/
def group (kind : ItemKind) (labels : List Text) : List CompletionItem :=
  labels.eraseDups.map (⟨·, kind⟩)

theorem group_concat (kind : ItemKind) (labels : List Text) (label : Text) :
    group kind (labels ++ [label]) =
      if label ∈ labels then group kind labels else group kind labels ++ [⟨label, kind⟩] := by
  rw [group, eraseDups_concat]
  split
  · rfl
  · rw [List.map_append]
    rfl

/-! ## The pass over the groups -/

namespace Gathering

variable {gathering : Gathering} {taken : List (ItemKind × List Text)} {kind : ItemKind}
  {labels : List Text}

/-- What the groups taken so far, the last of them perhaps in part, have come to: a name has been
seen with the number of a group if it is one of its names, and the items are those of each group
by itself. -/
structure Shows (gathering : Gathering) (taken : List (ItemKind × List Text)) : Prop where
  seen : ∀ label number,
    (label, number) ∈ gathering.seen ↔ ∃ entry ∈ taken[number]?, label ∈ entry.2
  items : gathering.items = taken.flatMap fun entry => group entry.1 entry.2

theorem shows_empty : empty.Shows [] := ⟨by simp [empty], rfl⟩

theorem exists_mem_getElem?_concat {last : ItemKind × List Text} {label : Text} {number : Nat} :
    (∃ entry ∈ (taken ++ [last])[number]?, label ∈ entry.2) ↔
      (∃ entry ∈ taken[number]?, label ∈ entry.2) ∨ number = taken.length ∧ label ∈ last.2 := by
  rcases Nat.lt_trichotomy number taken.length with h | rfl | h
  · rw [List.getElem?_append_left h]
    simp [Nat.ne_of_lt h]
  · simp
  · have hwhole : (taken ++ [last])[number]? = none := by
      rw [List.getElem?_eq_none_iff, List.length_append, List.length_singleton]
      exact h
    have hpart : taken[number]? = none := List.getElem?_eq_none (Nat.le_of_lt h)
    simp [hwhole, hpart, Nat.ne_of_gt h]

theorem Shows.begin (shown : gathering.Shows taken) (kind : ItemKind) :
    gathering.Shows (taken ++ [(kind, [])]) := by
  refine ⟨fun label number => ?_, ?_⟩
  · rw [shown.seen, exists_mem_getElem?_concat]
    simp
  · rw [shown.items, List.flatMap_append]
    simp [group]

/-- **One name.**  The pass has seen it in this group exactly if it is among the names that the
group has shown, whatever other groups have shown. -/
theorem Shows.take (shown : gathering.Shows (taken ++ [(kind, labels)])) (label : Text) :
    (gathering.take taken.length kind label).Shows (taken ++ [(kind, labels ++ [label])]) := by
  have hseen : (label, taken.length) ∈ gathering.seen ↔ label ∈ labels := by
    rw [shown.seen, exists_mem_getElem?_concat]
    simp
  have hitems := shown.items
  rw [List.flatMap_append, List.flatMap_singleton] at hitems
  by_cases hlabel : label ∈ labels
  · rw [Gathering.take, if_pos (hseen.2 hlabel)]
    refine ⟨fun other number => ?_, ?_⟩
    · rw [shown.seen, exists_mem_getElem?_concat, exists_mem_getElem?_concat]
      have hother : other ∈ labels ++ [label] ↔ other ∈ labels := by
        rw [List.mem_append, List.mem_singleton]
        exact or_iff_left_of_imp fun h => h ▸ hlabel
      rw [hother]
    · rw [hitems, List.flatMap_append, List.flatMap_singleton, group_concat, if_pos hlabel]
  · rw [Gathering.take, if_neg fun h => hlabel (hseen.1 h)]
    -- The new pair carries the number of this group, so the others have seen what they had.
    refine ⟨fun other number => ?_, ?_⟩
    · rw [List.mem_cons, shown.seen, exists_mem_getElem?_concat, exists_mem_getElem?_concat,
        Prod.mk.injEq]
      simp only [List.mem_append, List.mem_singleton]
      rw [or_comm, or_assoc, and_or_left, @and_comm (other = label)]
    · rw [List.flatMap_append, List.flatMap_singleton, group_concat, if_neg hlabel,
        ← List.append_assoc, ← hitems]

theorem Shows.foldl_take {taken : List (ItemKind × List Text)}
    (shown : gathering.Shows (taken ++ [(kind, labels)])) (more : List Text) :
    (more.foldl (Gathering.take taken.length kind) gathering).Shows
      (taken ++ [(kind, labels ++ more)]) := by
  induction more generalizing gathering labels with
  | nil => rwa [List.append_nil]
  | cons label more ih =>
    have hnext := ih (shown.take label)
    rwa [List.append_assoc] at hnext

/-- **All groups.**  Behind the groups taken so far come those that remain. -/
theorem Shows.takeGroups (shown : gathering.Shows taken) (groups : List (ItemKind × List Text)) :
    (gathering.takeGroups taken.length groups).Shows (taken ++ groups) := by
  induction groups generalizing gathering taken with
  | nil => rwa [List.append_nil]
  | cons entry groups ih =>
    obtain ⟨kind, labels⟩ := entry
    have hnext := ih ((shown.begin kind).foldl_take labels)
    rw [List.length_append, List.append_assoc] at hnext
    exact hnext

end Gathering

/-! ## The items of a document -/

def kinds : List ItemKind := [.function, .variableName, .constant, .keyword]

def names (table : Table) (bound : List Text) : ItemKind → List Text
  | .function => table.funcs
  | .variableName => bound
  | .constant => table.vars
  | .keyword => table.keywords

theorem groups_eq (table : Table) (bound : List Text) :
    groups table bound = kinds.map fun kind => (kind, names table bound kind) := rfl

/-- **What a document offers**, kind by kind. -/
theorem forDocument_eq (table : Table) (text : Text) :
    forDocument table text =
      kinds.flatMap fun kind => group kind (names table (boundNames text) kind) := by
  have hshown := Gathering.shows_empty.takeGroups (groups table (boundNames text))
  rw [groups_eq, List.nil_append] at hshown
  calc forDocument table text
      = (kinds.map fun kind => (kind, names table (boundNames text) kind)).flatMap
          fun entry => group entry.1 entry.2 := hshown.items
    _ = kinds.flatMap fun kind => group kind (names table (boundNames text) kind) := by
        rw [List.flatMap_map]

theorem mem_group {kind : ItemKind} {labels : List Text} {item : CompletionItem} :
    item ∈ group kind labels ↔ item.kind = kind ∧ item.label ∈ labels := by
  rw [group, List.mem_map]
  constructor
  · rintro ⟨label, hlabel, rfl⟩
    exact ⟨rfl, List.mem_eraseDups.1 hlabel⟩
  · rintro ⟨rfl, hlabel⟩
    exact ⟨item.label, List.mem_eraseDups.2 hlabel, rfl⟩

theorem mem_forDocument {table : Table} {text : Text} {item : CompletionItem} :
    item ∈ forDocument table text ↔ item.label ∈ names table (boundNames text) item.kind := by
  rw [forDocument_eq, List.mem_flatMap]
  constructor
  · rintro ⟨kind, -, hitem⟩
    obtain ⟨rfl, hlabel⟩ := mem_group.1 hitem
    exact hlabel
  · intro hlabel
    have hkind : item.kind ∈ kinds := by cases item.kind <;> decide
    exact ⟨item.kind, hkind, mem_group.2 ⟨rfl, hlabel⟩⟩

/-- Whether an item comes before another: by the order of the kinds, and among the items of one
kind by the first places of their names. -/
def Precedes (table : Table) (bound : List Text) (a b : CompletionItem) : Prop :=
  kinds.idxOf a.kind < kinds.idxOf b.kind ∨
    a.kind = b.kind ∧
      (names table bound a.kind).idxOf a.label < (names table bound a.kind).idxOf b.label

theorem pairwise_group (table : Table) (bound : List Text) (kind : ItemKind) :
    (group kind (names table bound kind)).Pairwise (Precedes table bound) := by
  rw [group, List.pairwise_map]
  exact (pairwise_idxOf_eraseDups _).imp fun h => .inr ⟨rfl, h⟩

theorem pairwise_forDocument (table : Table) (text : Text) :
    (forDocument table text).Pairwise (Precedes table (boundNames text)) := by
  have hkinds : kinds.Pairwise fun a b => kinds.idxOf a < kinds.idxOf b := by decide
  rw [forDocument_eq, List.pairwise_flatMap]
  refine ⟨fun kind _ => pairwise_group _ _ kind, hkinds.imp fun hkind a ha b hb => ?_⟩
  obtain ⟨rfl, -⟩ := mem_group.1 ha
  obtain ⟨rfl, -⟩ := mem_group.1 hb
  exact .inl hkind

theorem Precedes.ne {table : Table} {bound : List Text} {a b : CompletionItem}
    (h : Precedes table bound a b) : a ≠ b := by
  rintro rfl
  rcases h with h | ⟨-, h⟩
  · exact Nat.lt_irrefl _ h
  · exact Nat.lt_irrefl _ h

theorem nodup_forDocument (table : Table) (text : Text) : (forDocument table text).Nodup :=
  (pairwise_forDocument table text).imp Precedes.ne

theorem count_forDocument {table : Table} {text name : Text} {kind : ItemKind}
    (h : name ∈ names table (boundNames text) kind) :
    (forDocument table text).count ⟨name, kind⟩ = 1 :=
  List.count_eq_one_of_mem (nodup_forDocument table text) (mem_forDocument.2 h)

theorem count_forDocument_of_notMem {table : Table} {text name : Text} {kind : ItemKind}
    (h : name ∉ names table (boundNames text) kind) :
    (forDocument table text).count ⟨name, kind⟩ = 0 :=
  List.count_eq_zero_of_not_mem fun hitem => h (mem_forDocument.1 hitem)

end CompletionItem

open CompletionItem in
/-- **Each known name is offered once as what it is, in the order of first places.**  The items
of a document are those of the functions, of the bound names, of the variables and of the
keywords, each group by itself and without its repetitions; so a name is offered once for each
kind that it has and never for another, and the items stand in the order of the kinds and of the
first places of their names. -/
theorem items_in_order_once (table : Table) (text : Text) :
    forDocument table text =
      group .function table.funcs ++ group .variableName (boundNames text) ++
        group .constant table.vars ++ group .keyword table.keywords ∧
    (∀ name kind, (forDocument table text).count ⟨name, kind⟩ =
      if name ∈ names table (boundNames text) kind then 1 else 0) ∧
    (forDocument table text).Pairwise (Precedes table (boundNames text)) := by
  refine ⟨?_, fun name kind => ?_, pairwise_forDocument table text⟩
  · rw [forDocument_eq]
    simp [kinds, names]
  · split
    · exact count_forDocument ‹_›
    · exact count_forDocument_of_notMem ‹_›

/-- A name is kept for each group that has it, and once for that group. -/
example :
    CompletionItem.forDocument
        (Table.ofList [("funcs".toList, ["x".toList, "y".toList, "x".toList]),
          ("vars".toList, ["x".toList])])
        "let x = 1\nlet x = 2".toList =
      [⟨"x".toList, .function⟩, ⟨"y".toList, .function⟩, ⟨"x".toList, .variableName⟩,
        ⟨"x".toList, .constant⟩] := by
  decide +kernel

end DawnServer
