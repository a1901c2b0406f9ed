import DawnServer.Proofs.Script.Deltas
import DawnServer.Proofs.Script.Order
import DawnServer.Proofs.Session.OpenDocuments

/-!
# Semantic tokens as an editor reads them

An editor learns the names of types and modifiers when the session starts, and reads the
numbers of an answer by them: five for each token, its place told from the one before it
(`TokenNames.read?`).  What it reads is what the server found in the document
(`answer_reads_as_classified`), since tokens never go back and every code is the place of a
name in the legend.
-/

namespace DawnServer

/-- A token as an editor shows it, with the names of its type and of its modifiers. -/
structure ShownToken where
  line : Nat
  start : Nat
  length : Nat
  type : Text
  modifiers : List Text
  deriving Repr, DecidableEq

def Token.shown (token : Token) : ShownToken :=
  ⟨token.line, token.start, token.length, token.type.name.toList,
    token.modifiers.map (·.name.toList)⟩

def Json.member? (name : String) : Json → Option Json
  | .obj members => lookup? name.toList members
  | _ => none

/-- The names that an editor has learned for the numbers of types and modifiers. -/
structure TokenNames where
  types : List Text
  modifiers : List Text
  deriving Repr, DecidableEq

namespace TokenNames

def ofIntroduction? (introduction : Json) : Option TokenNames := do
  let capabilities ← introduction.member? "capabilities"
  let provider ← capabilities.member? "semanticTokensProvider"
  let legend ← provider.member? "legend"
  let types ← legend.member? "tokenTypes" >>= Json.listOf? Json.text?
  let modifiers ← legend.member? "tokenModifiers" >>= Json.listOf? Json.text?
  return ⟨types, modifiers⟩

def modifiersOf (names : TokenNames) (bits : Nat) : List Text :=
  (names.modifiers.zipIdx.filter fun (_, place) => bits.testBit place).map (·.1)

/-- Gives a token its names.  A type without a name makes it unreadable. -/
def shown? (names : TokenNames) (token : CodedToken) : Option ShownToken :=
  names.types[token.type]?.map fun type =>
    ⟨token.line, token.start, token.length, type, names.modifiersOf token.modifiers⟩

/-- Reads an answer: numbers of 32 bits, five for each token, the places told from one
another. -/
def read? (names : TokenNames) (answer : Json) : Option (List ShownToken) := do
  let data ← answer.member? "data"
  let numbers ← Json.listOf? Json.nat32? data
  let deltas ← DeltaToken.ofNumbers? numbers
  (DeltaToken.decode deltas).mapM names.shown?

def ofLegend : TokenNames :=
  ⟨TokenType.all.map (·.name.toList), TokenModifier.all.map (·.name.toList)⟩

theorem ofIntroduction?_introduction :
    ofIntroduction? Session.introduction = some ofLegend := rfl

theorem modifiersOf_bits (modifiers : List TokenModifier) :
    ofLegend.modifiersOf (TokenModifier.bits modifiers) =
      (TokenModifier.all.filter (· ∈ modifiers)).map (·.name.toList) := by
  have hplaces : ofLegend.modifiers.zipIdx =
      TokenModifier.all.map fun modifier => (modifier.name.toList, modifier.bit) := rfl
  have hbits : ∀ modifier ∈ TokenModifier.all,
      (TokenModifier.bits modifiers).testBit modifier.bit = decide (modifier ∈ modifiers) :=
    fun modifier _ => Bool.eq_iff_iff.2 <| by
      rw [TokenModifier.testBit_bits_bit, decide_eq_true_iff]
  rw [modifiersOf, hplaces, List.filter_map, List.map_map]
  exact congrArg (List.map (·.name.toList)) (List.filter_congr hbits)

end TokenNames

/-! ## Reading what was written -/

theorem WordClass.modifiers_ofWord (table : Table) (bound : List Text) (word : Text) :
    (ofWord table bound word).modifiers = [] ∨
      (ofWord table bound word).modifiers = [.readonly] := by
  unfold ofWord
  dsimp only
  split_ifs <;> simp

namespace Token

variable {table : Table} {spans : SpanLength} {text : Text} {token : Token}

theorem modifiers_of_mem_classify (h : token ∈ classify table spans text) :
    token.modifiers = [] ∨ token.modifiers = [.readonly] := by
  obtain ⟨before, word, behind, hmarks⟩ := exists_marks_of_mem h
  have hmodifiers := WordClass.modifiers_ofWord table (boundNames text) word
  rwa [hmarks.classified] at hmodifiers

theorem shown?_coded (h : token ∈ classify table spans text) :
    TokenNames.ofLegend.shown? token.coded = some token.shown := by
  have htype : TokenNames.ofLegend.types[token.type.code]? = some token.type.name.toList := by
    rw [TokenNames.ofLegend, List.getElem?_map, TokenType.getElem?_code]
    rfl
  have hlisted : TokenModifier.all.filter (· ∈ token.modifiers) = token.modifiers := by
    rcases modifiers_of_mem_classify h with hnone | hone
    · rw [hnone]
      rfl
    · rw [hone]
      rfl
  have hmodifiers := TokenNames.modifiersOf_bits token.modifiers
  rw [hlisted] at hmodifiers
  simp only [TokenNames.shown?, coded, htype, hmodifiers, Option.map_some]
  rfl

theorem coded_lt (h : token ∈ classify table spans text) :
    token.coded.line < 2 ^ 32 ∧ token.coded.start < 2 ^ 32 ∧ token.coded.length < 2 ^ 32 ∧
      token.coded.type < 2 ^ 32 ∧ token.coded.modifiers < 2 ^ 32 := by
  refine ⟨token.line.toNat_lt, token.start.toNat_lt, token.length.toNat_lt, ?_, ?_⟩
  · have hcode : token.type.code < TokenType.all.length :=
      List.idxOf_lt_length_of_mem (TokenType.mem_all token.type)
    exact Nat.lt_of_lt_of_le hcode (by decide)
  · show TokenModifier.bits token.modifiers < 2 ^ 32
    rcases modifiers_of_mem_classify h with hnone | hone
    · rw [hnone]
      decide
    · rw [hone]
      decide

theorem pairwise_coded (table : Table) (spans : SpanLength) (hcount : text.Countable32) :
    (((classify table spans text).map coded).map CodedToken.place).Pairwise (· ≤ ·) := by
  rw [List.map_map, List.pairwise_map]
  exact (pairwise_classify table spans hcount).imp fun h => le_of_lt h.place_lt

end Token

theorem mapM_map_eq_some {α β γ : Type} {f : β → Option γ} {g : α → β} {k : α → γ}
    {row : List α} (h : ∀ a ∈ row, f (g a) = some (k a)) :
    (row.map g).mapM f = some (row.map k) := by
  induction row with
  | nil => rfl
  | cons a row ih =>
    rw [List.map_cons, List.mapM_cons, h a List.mem_cons_self,
      ih fun b hb => h b (List.mem_cons_of_mem a hb)]
    rfl

theorem nat32?_nat {n : Nat} (h : n < 2 ^ 32) : Json.nat32? (Json.nat n) = some n := by
  have hbounds : (0 : Int) ≤ n ∧ (n : Int) ≤ 0xFFFFFFFF := by omega
  simp [Json.nat32?, Json.nat, Json.intBetween?, hbounds]

theorem semanticTokens_lt {table : Table} {spans : SpanLength} {text : Text} :
    ∀ n ∈ semanticTokens table spans text, n < 2 ^ 32 := by
  intro n hn
  obtain ⟨delta, hdelta, hn⟩ := List.mem_flatMap.1 hn
  obtain ⟨coded, hcoded, hlines, hcolumns, hlength, htype, hmodifiers⟩ :=
    DeltaToken.exists_of_mem_encodeFrom hdelta
  obtain ⟨token, htoken, rfl⟩ := List.mem_map.1 hcoded
  have hlt := Token.coded_lt htoken
  simp only [DeltaToken.numbers, List.mem_cons, List.not_mem_nil, or_false] at hn
  omega

theorem TokenNames.read?_semanticTokens (table : Table) (spans : SpanLength) {text : Text}
    (hcount : text.Countable32) :
    ofLegend.read?
        (.object [("data", .arr ((semanticTokens table spans text).map Json.nat))]) =
      some ((Token.classify table spans text).map Token.shown) := by
  have hdata : (Json.object
      [("data", .arr ((semanticTokens table spans text).map Json.nat))]).member? "data" =
        some (.arr ((semanticTokens table spans text).map Json.nat)) := rfl
  have hnumbers : Json.listOf? Json.nat32?
      (.arr ((semanticTokens table spans text).map Json.nat)) =
        some (semanticTokens table spans text) := by
    have hread : ∀ n ∈ semanticTokens table spans text,
        Json.nat32? (Json.nat n) = some (id n) :=
      fun n hn => nat32?_nat (semanticTokens_lt n hn)
    rw [Json.listOf?, mapM_map_eq_some hread, List.map_id]
  have hdecode : DeltaToken.decode
      (DeltaToken.encode ((Token.classify table spans text).map Token.coded)) =
        (Token.classify table spans text).map Token.coded :=
    DeltaToken.decode_encode (Token.pairwise_coded table spans hcount)
  have hshown : ((Token.classify table spans text).map Token.coded).mapM ofLegend.shown? =
      some ((Token.classify table spans text).map Token.shown) :=
    mapM_map_eq_some fun token htoken => Token.shown?_coded htoken
  rw [read?, hdata, Option.bind_eq_bind, Option.bind_some, hnumbers, Option.bind_eq_bind,
    Option.bind_some, semanticTokens, DeltaToken.ofNumbers?_numbers, Option.bind_eq_bind,
    Option.bind_some, hdecode, hshown]

/-- **An answer is read as the classification.**  A request for the tokens of an open document
is answered in numbers that an editor reads, by the names that the server gave it at the
start, as the tokens of the text: as many, in the same order, at the same places, with the
same lengths and under the names of the same types and modifiers. -/
theorem answer_reads_as_classified (files : FileReader) {session : Session}
    (hrunning : session.phase = .running) {uri : Url} {document : Document}
    (hopen : session.documents.get? uri.render = some document)
    (hcount : document.text.Countable32) {params : Json}
    (hread : shapedDocument? Shape.documentParams params = some uri) (id : MessageId) :
    ∃ names answer,
      TokenNames.ofIntroduction? Session.introduction = some names ∧
      session.turn? files ⟨some id, "textDocument/semanticTokens/full".toList, some params⟩ =
        some ⟨session, some ⟨id, .ok answer⟩, []⟩ ∧
      names.read? answer =
        some ((Token.classify session.registry.table session.settings.spans
          document.text).map Token.shown) := by
  refine ⟨TokenNames.ofLegend, _, TokenNames.ofIntroduction?_introduction, ?_,
    TokenNames.read?_semanticTokens session.registry.table session.settings.spans hcount⟩
  rw [Session.turn?_of_query hrunning ofName_tokens
    (Option.map_eq_some_iff.2 ⟨uri, hread, rfl⟩) id, Session.answer, Session.tokens?, hopen]
  rfl

/-! ## An answer

Two lines with a break of two characters between them, a surrogate pair, and a variable of the
framework. -/

namespace Greeting

def document : Document := ⟨"let $x = ask\r\n😀 $x $hello".toList, 1⟩

def session : Session :=
  ⟨⟨none, .exact, .off⟩, .running,
    DocumentStore.empty.insert Reopening.uri.render document, Registry.empty⟩

def params : Json := .object [("textDocument", .object [("uri", .lit "file:///a")])]

def shown : List ShownToken :=
  [⟨0, 0, 3, "keywordOther".toList, []⟩, ⟨0, 4, 2, "variable".toList, []⟩,
    ⟨0, 7, 1, "operator".toList, []⟩, ⟨0, 9, 3, "function".toList, []⟩,
    ⟨1, 0, 2, "label".toList, []⟩, ⟨1, 3, 2, "variable".toList, []⟩,
    ⟨1, 6, 6, "variable".toList, ["readonly".toList]⟩]

end Greeting

open Greeting in
theorem answer_reads_as_classified_greeting :
    session.phase = .running ∧
    session.documents.get? Reopening.uri.render = some document ∧
    document.text.Countable32 ∧
    shapedDocument? Shape.documentParams params = some Reopening.uri ∧
    ∃ names answer,
      TokenNames.ofIntroduction? Session.introduction = some names ∧
      session.turn? (FileTree.empty.reader [])
          ⟨some (.number 1), "textDocument/semanticTokens/full".toList, some params⟩ =
        some ⟨session, some ⟨.number 1, .ok answer⟩, []⟩ ∧
      names.read? answer = some shown := by
  have hopen : session.documents.get? Reopening.uri.render = some document := rfl
  have hcount : document.text.Countable32 := ⟨by decide +kernel, by decide +kernel⟩
  have hread : shapedDocument? Shape.documentParams params = some Reopening.uri := by rfl
  have hshown : (Token.classify session.registry.table session.settings.spans
      document.text).map Token.shown = shown := by decide +kernel
  refine ⟨rfl, hopen, hcount, hread, ?_⟩
  rw [← hshown]
  exact answer_reads_as_classified (FileTree.empty.reader []) rfl hopen hcount hread (.number 1)

end DawnServer
