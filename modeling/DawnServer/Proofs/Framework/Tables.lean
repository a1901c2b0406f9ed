import DawnServer.Framework.Table
import DawnServer.Proofs.Json.Layout

/-!
# Tables from their categories

A table is what comes of inserting its categories in their order (`Table.ofList_categories`),
and so it is read back from its JSON form (`Table.ofJson?_toJson`).
-/

namespace DawnServer.Table

theorem insertIn_of_lt {name : Text} {categories : List Category}
    (h : ∀ category ∈ categories, category.1 < name) (members : List Text) :
    insertIn name members categories = categories ++ [(name, members)] := by
  induction categories with
  | nil => rfl
  | cons category categories ih =>
    obtain ⟨key, old⟩ := category
    have hlt : key < name := h (key, old) List.mem_cons_self
    have hrest := ih fun other hother => h other (List.mem_cons_of_mem _ hother)
    rw [insertIn, if_neg (List.lt_asymm hlt), if_pos hlt, hrest, List.cons_append]

theorem categories_foldl_insert {table : Table} {categories : List Category}
    (h : (table.categories ++ categories).Pairwise fun a b => a.1 < b.1) :
    (categories.foldl (fun table category => table.insert category.1 category.2) table).categories =
      table.categories ++ categories := by
  induction categories generalizing table with
  | nil => exact (List.append_nil _).symm
  | cons category categories ih =>
    have hbefore : ∀ other ∈ table.categories, other.1 < category.1 := fun other hother =>
      (List.pairwise_append.1 h).2.2 other hother category List.mem_cons_self
    have hinsert : (table.insert category.1 category.2).categories =
        table.categories ++ [category] := insertIn_of_lt hbefore category.2
    have hnext : ((table.insert category.1 category.2).categories ++ categories).Pairwise
        fun a b => a.1 < b.1 := by
      rw [hinsert, ← List.append_cons]
      exact h
    rw [List.foldl_cons, ih hnext, hinsert, ← List.append_cons]

/-- **A table comes of its categories.** -/
theorem ofList_categories (table : Table) : ofList table.categories = table := by
  have hordered : (empty.categories ++ table.categories).Pairwise fun a b => a.1 < b.1 :=
    table.ordered
  have h : (ofList table.categories).categories = table.categories :=
    categories_foldl_insert hordered
  cases table
  cases hlist : ofList _
  rw [hlist] at h
  subst h
  rfl

/-! ## The JSON form -/

theorem texts?_map_str (texts : List Text) : texts? (texts.map .str) = some texts := by
  induction texts with
  | nil => rfl
  | cons text texts ih => rw [List.map_cons, texts?, ih, Option.map_some]

theorem categories?_map (categories : List Category) :
    categories? (categories.map fun (name, members) => (name, .arr (members.map .str))) =
      some categories := by
  induction categories with
  | nil => rfl
  | cons category categories ih =>
    obtain ⟨name, members⟩ := category
    rw [List.map_cons, categories?, texts?_map_str, ih]
    rfl

/-- **A table is read back from its JSON form.** -/
theorem ofJson?_toJson (table : Table) : ofJson? table.toJson = some table := by
  rw [toJson, ofJson?, categories?_map, Option.map_some, ofList_categories]

theorem numberless_toJson (table : Table) : table.toJson.Numberless := by
  refine .obj fun member hmember => ?_
  obtain ⟨category, -, rfl⟩ := List.mem_map.1 hmember
  refine .arr fun item hitem => ?_
  obtain ⟨text, -, rfl⟩ := List.mem_map.1 hitem
  exact .str text

end DawnServer.Table
