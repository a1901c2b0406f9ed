import DawnServer.Framework.File
import DawnServer.Proofs.Text.Trimming

/-!
# The file beside a document

A URL names a file by its path alone: its bytes, decoded, and the names between their slashes
(`Url.filePath?_eq`, `FileTree.names`).  The framework file lies beside that file, under the same
names but the last (`Table.pathBeside_cases`), and there is none exactly for a URL without a
hierarchical path, with a host, or with a path that leads to no name
(`Table.pathBeside_eq_error_iff`).
-/

namespace DawnServer

/-! ## The names on a path -/

/-- Whether a component of a path leads nowhere: it is empty or a single dot. -/
def FileTree.isIdle (name : FileName) : Bool := name == [] || name == [dot]

/-- The names on a path, one for each step that it goes. -/
def FileTree.names (path : List UInt8) : List FileName :=
  (path.splitOn slash).filter fun name => !isIdle name

namespace FileTree

theorem names_append_slash (a b : List UInt8) : names (a ++ slash :: b) = names a ++ names b := by
  rw [names, List.splitOn_append_cons_self, List.filter_append]
  rfl

theorem names_nil : names [] = [] := by decide

theorem names_slash_cons (path : List UInt8) : names (slash :: path) = names path := by
  have h := names_append_slash [] path
  rwa [names_nil, List.nil_append, List.nil_append] at h

theorem names_intercalate {row : List FileName} (h : ∀ name ∈ row, slash ∉ name) :
    names ([slash].intercalate row) = row.filter fun name => !isIdle name := by
  cases row with
  | nil => decide
  | cons name row => rw [names, List.splitOn_intercalate slash h (List.cons_ne_nil name row)]

end FileTree

open FileTree (names isIdle slash)

theorem dropIdle_eq (row : List FileName) : dropIdle row = row.rdropWhile isIdle := rfl

theorem filter_dropIdle (row : List FileName) :
    (dropIdle row).filter (fun name => !isIdle name) = row.filter fun name => !isIdle name := by
  rw [dropIdle_eq]
  induction row using List.reverseRecOn with
  | nil => rfl
  | append_singleton row name ih =>
    rw [List.rdropWhile_concat]
    split
    · next hidle =>
      rw [ih, List.filter_append]
      simp [hidle]
    · rfl

theorem dropIdle_eq_nil_iff {path : List UInt8} :
    dropIdle (path.splitOn slash) = [] ↔ names path = [] := by
  rw [dropIdle_eq, List.rdropWhile_eq_nil_iff, names, List.filter_eq_nil_iff]
  simp

theorem mem_of_mem_dropIdle {row : List FileName} {name : FileName} (h : name ∈ dropIdle row) :
    name ∈ row := by
  rw [dropIdle_eq] at h
  exact (List.rdropWhile_prefix isIdle row).subset h

theorem filter_dropLast_dropIdle (row : List FileName) :
    (dropIdle row).dropLast.filter (fun name => !isIdle name) =
      (row.filter fun name => !isIdle name).dropLast := by
  rw [← filter_dropIdle row]
  rcases List.eq_nil_or_concat (dropIdle row) with hnil | ⟨init, last, hconcat⟩
  · rw [hnil]
    rfl
  · rw [List.concat_eq_append] at hconcat
    have hlast : isIdle last = false := by
      have h := List.rdropWhile_last_not isIdle row (by rw [← dropIdle_eq, hconcat]; simp)
      simpa only [← dropIdle_eq, hconcat, List.getLast_append_singleton, Bool.not_eq_true] using h
    rw [hconcat, List.dropLast_concat, List.filter_append, List.filter_singleton, hlast]
    exact (List.dropLast_concat).symm

/-- **The directory of a path.**  A path that leads to a name lies in the directory under the
names before that one; no other path lies in any. -/
theorem parentPath?_cases (path : List UInt8) :
    (names path = [] ∧ parentPath? (slash :: path) = none) ∨
      names path ≠ [] ∧ ∃ directory, parentPath? (slash :: path) = some directory ∧
        names directory = (names path).dropLast := by
  rw [parentPath?, List.tail_cons]
  cases hrow : dropIdle (path.splitOn slash) with
  | nil => exact .inl ⟨dropIdle_eq_nil_iff.1 hrow, rfl⟩
  | cons name row =>
    have hne : names path ≠ [] := fun h => by
      rw [dropIdle_eq_nil_iff.2 h] at hrow
      cases hrow
    refine .inr ⟨hne, _, rfl, ?_⟩
    have hslash : ∀ other ∈ dropIdle (name :: row).dropLast, slash ∉ other := by
      intro other hother
      have hmem : other ∈ dropIdle (path.splitOn slash) := by
        rw [hrow]
        exact List.dropLast_subset _ (mem_of_mem_dropIdle hother)
      exact Text.notMem_of_mem_splitOn (mem_of_mem_dropIdle hmem)
    calc names (slash :: [slash].intercalate (dropIdle (name :: row).dropLast))
        = (dropIdle (name :: row).dropLast).filter fun name => !isIdle name := by
          rw [FileTree.names_slash_cons, FileTree.names_intercalate hslash]
      _ = (dropIdle (path.splitOn slash)).dropLast.filter fun name => !isIdle name := by
          rw [filter_dropIdle, hrow]
      _ = (names path).dropLast := filter_dropLast_dropIdle _

/-! ## The file that a URL names -/

namespace Url

theorem percentDecode_cons_of_ne {c : Char} (h : c ≠ '%') (text : Text) :
    percentDecode (c :: text) = Utf8.encodeChar c ++ percentDecode text := by
  rw [percentDecode]
  rintro a b rest rfl
  exact absurd rfl h

theorem percentDecode_slash_cons (text : Text) :
    percentDecode ('/' :: text) = slash :: percentDecode text :=
  percentDecode_cons_of_ne (by decide) text

theorem percentDecode_percent {text : Text}
    (h : ∀ a b rest, text = a :: b :: rest → Text.hexValue? a = none ∨ Text.hexValue? b = none) :
    percentDecode ('%' :: text) = 0x25 :: percentDecode text := by
  rcases text with _ | ⟨a, _ | ⟨b, rest⟩⟩
  · decide
  · rw [percentDecode]
    · rfl
    · simp
  · rw [percentDecode]
    rcases h a b rest rfl with ha | hb
    · simp [ha]
    · simp [hb]

theorem percentDecode_append_slash (a b : Text) :
    percentDecode (a ++ '/' :: b) = percentDecode a ++ slash :: percentDecode b := by
  have hvalue : Text.hexValue? '/' = none := by decide
  -- Digits are looked for beyond the end of `a` only if it ends in a percent sign, with one
  -- character behind it at most.  Then the slash stands where a digit would have to.
  fun_induction percentDecode a with
  | case1 => exact percentDecode_slash_cons b
  | case2 x y text high low hx hy ih =>
    rw [List.cons_append, List.cons_append, List.cons_append, percentDecode]
    simp only [hx, hy, ih, List.cons_append]
  | case3 x y text hnone ih =>
    have hdigits : Text.hexValue? x = none ∨ Text.hexValue? y = none := by
      cases hx : Text.hexValue? x with
      | none => exact .inl rfl
      | some high => exact .inr (Option.eq_none_iff_forall_ne_some.2 fun low => hnone high low hx)
    have hstep : percentDecode ('%' :: (x :: y :: text ++ '/' :: b)) =
        0x25 :: percentDecode (x :: y :: text ++ '/' :: b) := by
      apply percentDecode_percent
      rintro _ _ _ ⟨⟩
      exact hdigits
    rw [List.cons_append, hstep, ih, List.cons_append]
  | case4 c text hshort ih =>
    by_cases hc : c = '%'
    · have hencoded : Utf8.encodeChar c = [0x25] := by rw [hc]; decide
      have hstep : percentDecode ('%' :: (text ++ '/' :: b)) =
          0x25 :: percentDecode (text ++ '/' :: b) := by
        apply percentDecode_percent
        intro x y rest hrest
        rcases text with _ | ⟨z, _ | ⟨w, text⟩⟩
        · exact .inl (by rw [← (List.cons.inj hrest).1, hvalue])
        · obtain ⟨-, hrest⟩ := List.cons.inj hrest
          exact .inr (by rw [← (List.cons.inj hrest).1, hvalue])
        · exact (hshort z w text hc rfl).elim
      rw [hencoded, hc, List.cons_append, hstep, ih, List.append_assoc, List.singleton_append]
    · rw [List.cons_append, percentDecode_cons_of_ne hc, ih, List.append_assoc]

theorem percentDecode_intercalate {segments : List Text} (h : segments ≠ []) :
    slash :: percentDecode (['/'].intercalate segments) =
      segments.flatMap fun segment => slash :: percentDecode segment := by
  induction segments with
  | nil => exact absurd rfl h
  | cons segment segments ih =>
    cases segments with
    | nil => rw [List.intercalate_singleton, List.flatMap_singleton]
    | cons next segments =>
      rw [List.intercalate_cons_cons, List.append_assoc, List.singleton_append,
        percentDecode_append_slash, ih (List.cons_ne_nil next segments)]
      rfl

def IsLocal (url : Url) : Prop :=
  ∀ authority ∈ url.authority, authority.host = [] ∨ authority.host = "localhost".toList

instance (url : Url) : Decidable url.IsLocal :=
  inferInstanceAs (Decidable (∀ authority ∈ url.authority,
    authority.host = [] ∨ authority.host = "localhost".toList))

theorem isLocal_iff (url : Url) :
    (match url.authority with
      | none => true
      | some authority => authority.host.isEmpty || authority.host == "localhost".toList) =
      true ↔ url.IsLocal := by
  rw [IsLocal]
  cases url.authority with
  | none => simp
  | some authority => simp

/-- **The path of the file that a URL names** is its own path, decoded.  There is one if the path
begins with a slash and no other host is named; the scheme has no part in it. -/
theorem filePath?_eq (url : Url) :
    url.filePath? =
      if url.path.head? = some '/' ∧ url.IsLocal then some (closeDrive (percentDecode url.path))
      else none := by
  rw [filePath?]
  split
  · next path hpath =>
    have hdecoded : (path.splitOn '/').flatMap (fun segment => slash :: percentDecode segment) =
        percentDecode url.path := by
      rw [← percentDecode_intercalate (List.splitOn_ne_nil '/' path), List.intercalate_splitOn,
        hpath, percentDecode_slash_cons]
    simp only [hdecoded, hpath, List.head?_cons, true_and]
    exact if_congr (isLocal_iff url) rfl rfl
  · next hrootless =>
    rw [if_neg]
    rintro ⟨hhead, -⟩
    obtain ⟨path, hpath⟩ := List.head?_eq_some_iff.1 hhead
    exact hrootless path hpath

end Url

theorem names_closeDrive (path : List UInt8) : names (closeDrive path) = names path := by
  rw [closeDrive]
  split
  · split
    · rw [FileTree.names_append_slash]
      exact List.append_nil _
    · rfl
  · rfl

theorem exists_closeDrive (path : List UInt8) :
    ∃ rest, closeDrive (slash :: path) = slash :: rest := by
  rw [closeDrive]
  split
  · split
    · exact ⟨path ++ [slash], rfl⟩
    · exact ⟨path, rfl⟩
  · exact ⟨path, rfl⟩

/-- A URL names no file in a directory: its path is not hierarchical, it names another host, or
its path leads to no name. -/
inductive Url.NamesNoFile (url : Url) : Prop
  | rootless (path : url.path.head? ≠ some '/')
  | remote (host : ¬ url.IsLocal)
  | nameless (path : names (Url.percentDecode url.path) = [])

namespace Table

theorem names_beside (directory : List UInt8) :
    names (directory ++ (if directory = [slash] then [] else [slash]) ++ fileName) =
      names directory ++ [fileName] := by
  have hname : names fileName = [fileName] := by decide
  split
  · next hroot =>
    rw [hroot, List.append_nil, List.singleton_append, FileTree.names_slash_cons, hname]
    rfl
  · rw [List.append_assoc, List.singleton_append, FileTree.names_append_slash, hname]

/-- **Which framework file lies beside a document**, by the path of its URL.  It has the names of
the document but for the last one. -/
theorem pathBeside_cases (uri : Url) :
    (uri.NamesNoFile ∧ pathBeside uri = .error (.notLocal uri)) ∨
      ¬ uri.NamesNoFile ∧ ∃ path, pathBeside uri = .ok path ∧
        names path = (names (Url.percentDecode uri.path)).dropLast ++ [fileName] := by
  rw [pathBeside, Url.filePath?_eq]
  by_cases hfile : uri.path.head? = some '/' ∧ uri.IsLocal
  · rw [if_pos hfile]
    obtain ⟨hhead, hlocal⟩ := hfile
    obtain ⟨rest, hrest⟩ : ∃ rest, closeDrive (Url.percentDecode uri.path) = slash :: rest := by
      obtain ⟨path, hpath⟩ := List.head?_eq_some_iff.1 hhead
      rw [hpath, Url.percentDecode_slash_cons]
      exact exists_closeDrive _
    have hnames : names rest = names (Url.percentDecode uri.path) := by
      rw [← FileTree.names_slash_cons, ← hrest, names_closeDrive]
    rw [hrest, Option.bind_eq_bind, Option.bind_some]
    rcases parentPath?_cases rest with ⟨hnone, hparent⟩ | ⟨hsome, directory, hparent, hdirectory⟩
    · exact .inl ⟨.nameless (hnames ▸ hnone), by rw [hparent]⟩
    · refine .inr ⟨?_, _, by rw [hparent], ?_⟩
      · rintro (hrootless | hremote | hnameless)
        · exact hrootless hhead
        · exact hremote hlocal
        · exact hsome (hnames.trans hnameless)
      · rw [names_beside, hdirectory, hnames]
  · rw [if_neg hfile]
    refine .inl ⟨?_, rfl⟩
    by_cases hhead : uri.path.head? = some '/'
    · exact .remote fun hlocal => hfile ⟨hhead, hlocal⟩
    · exact .rootless hhead

theorem pathBeside_eq_error_iff {uri : Url} :
    pathBeside uri = .error (.notLocal uri) ↔ uri.NamesNoFile := by
  rcases pathBeside_cases uri with ⟨hnone, herror⟩ | ⟨hsome, path, hpath, -⟩
  · exact iff_of_true herror hnone
  · rw [hpath]
    exact iff_of_false nofun hsome

end Table

end DawnServer
