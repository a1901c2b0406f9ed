import DawnServer.Document.Basic

/-!
# Open documents

The open documents of a session, each under its URI in normal form.
-/

namespace DawnServer

/-- Documents under their URIs, no URI twice. -/
structure DocumentStore where
  entries : List (Text × Document)
  distinct : (entries.map (·.1)).Nodup

namespace DocumentStore

def empty : DocumentStore := ⟨[], .nil⟩

def get? (store : DocumentStore) (uri : Text) : Option Document := store.entries.lookup uri

def size (store : DocumentStore) : Nat := store.entries.length

def without (uri : Text) (entries : List (Text × Document)) : List (Text × Document) :=
  entries.filter (·.1 ≠ uri)

theorem distinct_without (uri : Text) {entries : List (Text × Document)}
    (h : (entries.map (·.1)).Nodup) : ((without uri entries).map (·.1)).Nodup :=
  h.sublist (List.filter_sublist.map _)

theorem notMem_without (uri : Text) (entries : List (Text × Document)) :
    uri ∉ (without uri entries).map (·.1) := by
  simp [without]

def erase (store : DocumentStore) (uri : Text) : DocumentStore :=
  ⟨without uri store.entries, distinct_without uri store.distinct⟩

def insert (store : DocumentStore) (uri : Text) (document : Document) : DocumentStore :=
  ⟨(uri, document) :: without uri store.entries,
    List.nodup_cons.2 ⟨notMem_without uri store.entries, distinct_without uri store.distinct⟩⟩

theorem lookup_without (uri other : Text) (entries : List (Text × Document)) :
    (without uri entries).lookup other = if other = uri then none else entries.lookup other := by
  induction entries with
  | nil => simp [without]
  | cons entry entries ih =>
    obtain ⟨key, document⟩ := entry
    unfold without at ih ⊢
    by_cases hk : key = uri
    · subst hk
      by_cases ho : other = key
      · simpa [ho] using ih
      · simpa [ho, List.lookup_cons, beq_eq_false_iff_ne.2 ho] using ih
    · by_cases hok : other = key
      · subst hok
        simp [hk]
      · simpa [hk, List.lookup_cons, beq_eq_false_iff_ne.2 hok] using ih

theorem get?_erase (store : DocumentStore) (uri other : Text) :
    (store.erase uri).get? other = if other = uri then none else store.get? other :=
  lookup_without uri other store.entries

theorem get?_insert (store : DocumentStore) (uri other : Text) (document : Document) :
    (store.insert uri document).get? other =
      if other = uri then some document else store.get? other := by
  unfold insert get?
  rw [List.lookup_cons]
  by_cases h : other = uri
  · simp [h]
  · simp [beq_eq_false_iff_ne.2 h, h, lookup_without]

end DocumentStore

end DawnServer
