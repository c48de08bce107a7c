/-
Symbols of structured texts: marks, words, numbers and quoted texts, and the ways to write them. Numbers and quoted texts
may be spelled in several ways, and a quoted text may even hold half a surrogate pair, which stands for no character.
Blanks may stand before every symbol and after the last.

- `Piece.SpelledBy`, `StandsFor`: the ways to write a unit of a quoted text, and the characters that units stand for.
- `Symbol.SpelledBy`, `SymbolsSpelledBy`: the ways to write a symbol, and a row of symbols.
- `scanText_pieces`, `StandsFor.joinPieces_eq`: a quoted text is scanned and read however it is written.
- `lexemes_symbols`: a row of symbols is cut into one lexeme for each.
-/
import EntitySchema.Proofs.Json.Literals
import Mathlib.Data.List.Chain

namespace EntitySchema.Json

open EntitySchema.Decimal

/-! ## Quoted texts -/

/-- the characters that are written as a backslash with a letter or mark, each with this letter or mark -/
def namedEscapes : List (Char × Char) :=
  [('"', '"'), ('\\', '\\'), ('/', '/'), ('b', '\x08'), ('f', '\x0c'), ('n', '\n'), ('r', '\r'), ('t', '\t')]

/-- the ways to write a unit between quotes -/
inductive Piece.SpelledBy : Piece → List Char → Prop
  | plain {c : Char} (hquote : c ≠ '"') (hbackslash : c ≠ '\\') (hc : ¬c.toNat < 0x20) : SpelledBy (.char c) [c]
  | escape {e c : Char} (h : (e, c) ∈ namedEscapes) : SpelledBy (.char c) ['\\', e]
  | code {a b c d : Char} {n : Nat} (h : hexValue4? a b c d = some n) : SpelledBy (.code n) ['\\', 'u', a, b, c, d]

theorem unescape?_of_mem_namedEscapes :
    ∀ p ∈ namedEscapes, unescape? p.1 = some p.2 ∧ p.1 ≠ 'u' := by decide

/-- a unit is scanned however it is written -/
theorem scanText_spelled {p : Piece} {cs : List Char} (h : p.SpelledBy cs) (rest : List Char) :
    scanText (cs ++ rest) = (p :: (scanText rest).1, (scanText rest).2) := by
  cases h with
  | plain hquote hbackslash hc =>
    rw [List.singleton_append, scanText]
    · simp only [hquote, hc, if_false]
    all_goals simp [hbackslash]
  | escape h =>
    obtain ⟨hescape, hu⟩ := unescape?_of_mem_namedEscapes _ h
    rw [List.cons_append, List.singleton_append, scanText]
    · simp only [hescape]
    · exact fun _ _ _ _ _ e => absurd e hu
    · exact hu
  | code h => simp [scanText, h]

/-- the ways to write units one after the other -/
def PiecesSpelledBy (ps : List Piece) (cs : List Char) : Prop :=
  ∃ parts, List.Forall₂ Piece.SpelledBy ps parts ∧ cs = parts.flatten

/-- units are scanned up to the closing quote -/
theorem scanText_pieces {ps : List Piece} {cs : List Char} (h : PiecesSpelledBy ps cs) (rest : List Char) :
    scanText (cs ++ '"' :: rest) = (ps, .ok rest) := by
  obtain ⟨parts, hparts, rfl⟩ := h
  induction hparts with
  | nil => simp [scanText]
  | cons hp _ ih => rw [List.flatten_cons, List.append_assoc, scanText_spelled hp, ih]

/-- the characters that units stand for; a surrogate pair stands for one -/
inductive StandsFor : List Piece → List Char → Prop
  | nil : StandsFor [] []
  | char {ps : List Piece} {cs : List Char} (c : Char) (h : StandsFor ps cs) : StandsFor (.char c :: ps) (c :: cs)
  | code {ps : List Piece} {cs : List Char} {n : Nat} (hlow : isLowSurrogate n = false)
    (hhigh : isHighSurrogate n = false) (h : StandsFor ps cs) : StandsFor (.code n :: ps) (Char.ofNat n :: cs)
  | pair {ps : List Piece} {cs : List Char} {high low : Nat} (hhigh : isHighSurrogate high = true)
    (hlow : isLowSurrogate low = true) (h : StandsFor ps cs) :
    StandsFor (.code high :: .code low :: ps) (joinSurrogates high low :: cs)

/-- a code that is no surrogate is read as its character -/
theorem joinPieces_code {n : Nat} (low : isLowSurrogate n = false) (high : isHighSurrogate n = false)
    (stop : Option Fault) (ps : List Piece) :
    joinPieces stop (.code n :: ps) = (joinPieces stop ps).map (Char.ofNat n :: ·) := by
  rcases ps with _ | ⟨_ | _, ps⟩ <;> simp [joinPieces, low, high]

theorem not_low_of_high {n : Nat} (h : isHighSurrogate n = true) : isLowSurrogate n = false := by
  simp only [isHighSurrogate, isLowSurrogate, Bool.and_eq_true, decide_eq_true_eq] at h ⊢
  simp only [Bool.and_eq_false_iff, decide_eq_false_iff_not]
  omega

/-- units are read as the characters they stand for -/
theorem StandsFor.joinPieces_eq {ps : List Piece} {cs : List Char} (h : StandsFor ps cs) : joinPieces none ps = .ok cs := by
  induction h with
  | nil => rfl
  | char c _ ih =>
    rw [joinPieces, ih]
    rfl
  | code hlow hhigh _ ih =>
    rw [joinPieces_code hlow hhigh, ih]
    rfl
  | pair hhigh hlow _ ih =>
    rw [joinPieces, not_low_of_high hhigh, hhigh, hlow, ih]
    rfl

def textToken (ps : List Piece) : Token String := ⟨(joinPieces none ps).map String.ofList, none⟩

theorem textLexeme_pieces {ps : List Piece} {cs : List Char} (h : PiecesSpelledBy ps cs) (rest : List Char) :
    textLexeme (cs ++ '"' :: rest) = (.text (textToken ps), some rest) := by
  rw [textLexeme, scanText_pieces h]
  rfl

theorem textToken_of_standsFor {ps : List Piece} {name : String} (h : StandsFor ps name.toList) :
    textToken ps = ⟨.ok name, none⟩ := by
  rw [textToken, h.joinPieces_eq, Except.map, String.ofList_toList]

/-! ## Symbols -/

/-- a symbol of a structured text: a mark, a word, a number or a quoted text -/
inductive Symbol where
  | beginList
  | endList
  | beginObject
  | endObject
  | comma
  | colon
  | null
  | bool (b : Bool)
  | number (w : Literal)
  | text (ps : List Piece)

namespace Symbol

inductive SpelledBy : Symbol → List Char → Prop
  | beginList : SpelledBy .beginList ['[']
  | endList : SpelledBy .endList [']']
  | beginObject : SpelledBy .beginObject ['\x7b']
  | endObject : SpelledBy .endObject ['\x7d']
  | comma : SpelledBy .comma [',']
  | colon : SpelledBy .colon [':']
  | null : SpelledBy .null ['n', 'u', 'l', 'l']
  | yes : SpelledBy (.bool true) ['t', 'r', 'u', 'e']
  | no : SpelledBy (.bool false) ['f', 'a', 'l', 's', 'e']
  | number {w : Literal} {cs : List Char} (h : w.SpelledBy cs) : SpelledBy (.number w) cs
  | text {ps : List Piece} {cs : List Char} (h : PiecesSpelledBy ps cs) : SpelledBy (.text ps) ('"' :: (cs ++ ['"']))

def isNumber : Symbol → Bool
  | number _ => true
  | _ => false

def lexeme : Symbol → Lexeme
  | beginList => .beginList
  | endList => .endList
  | beginObject => .beginObject
  | endObject => .endObject
  | comma => .comma
  | colon => .colon
  | null => .plain ⟨.ok .null, none⟩
  | bool b => .plain ⟨.ok (.bool b), none⟩
  | number w => .plain (numberToken (numberOf w))
  | text ps => .text (textToken ps)

end Symbol

/-- the ways to write a row of symbols: blanks may stand before each and after the last -/
inductive SymbolsSpelledBy : List Symbol → List Char → Prop
  | nil {blanks : List Char} (hblanks : ∀ c ∈ blanks, isSpace c = true) : SymbolsSpelledBy [] blanks
  | cons {s : Symbol} {ss : List Symbol} {blanks cs rest : List Char} (hblanks : ∀ c ∈ blanks, isSpace c = true)
    (hs : s.SpelledBy cs) (hrest : SymbolsSpelledBy ss rest) : SymbolsSpelledBy (s :: ss) (blanks ++ cs ++ rest)

theorem SymbolsSpelledBy.before {s : Symbol} {ss : List Symbol} {cs rest : List Char} (hs : s.SpelledBy cs)
    (hrest : SymbolsSpelledBy ss rest) : SymbolsSpelledBy (s :: ss) (cs ++ rest) := by
  have hcons : SymbolsSpelledBy (s :: ss) ([] ++ cs ++ rest) := .cons (by simp) hs hrest
  rwa [List.nil_append] at hcons

/-- before a row of symbols stands one of a single character -/
theorem SymbolsSpelledBy.mark {s : Symbol} {ss : List Symbol} {c : Char} {rest : List Char} (hs : s.SpelledBy [c])
    (hrest : SymbolsSpelledBy ss rest) : SymbolsSpelledBy (s :: ss) (c :: rest) := .before hs hrest

theorem SymbolsSpelledBy.one {s : Symbol} {cs : List Char} (hs : s.SpelledBy cs) : SymbolsSpelledBy [s] cs := by
  have hbefore : SymbolsSpelledBy [s] (cs ++ []) := .before hs (.nil (by simp))
  rwa [List.append_nil] at hbefore

/-- more blanks may stand before a row of symbols -/
theorem SymbolsSpelledBy.after_blanks {ss : List Symbol} {cs : List Char} (h : SymbolsSpelledBy ss cs)
    {blanks : List Char} (hblanks : ∀ c ∈ blanks, isSpace c = true) : SymbolsSpelledBy ss (blanks ++ cs) := by
  cases h with
  | nil hmore => exact .nil (List.forall_mem_append.2 ⟨hblanks, hmore⟩)
  | cons hmore hs hrest =>
    rw [← List.append_assoc, ← List.append_assoc]
    exact .cons (List.forall_mem_append.2 ⟨hblanks, hmore⟩) hs hrest

theorem SymbolsSpelledBy.append {ss ts : List Symbol} {cs ds : List Char} (h : SymbolsSpelledBy ss cs)
    (h' : SymbolsSpelledBy ts ds) : SymbolsSpelledBy (ss ++ ts) (cs ++ ds) := by
  induction h with
  | nil hblanks => exact h'.after_blanks hblanks
  | cons hblanks hs _ ih =>
    rw [List.append_assoc]
    exact .cons hblanks hs ih

/-- no two numbers stand side by side -/
def Apart (ss : List Symbol) : Prop := ss.IsChain fun s t => s.isNumber = false ∨ t.isNumber = false

/-! ## From symbols to lexemes -/

theorem delimited_of_isSpace {c : Char} (h : isSpace c = true) (cs : List Char) : Delimited (c :: cs) := by
  simp only [isSpace, Bool.or_eq_true, beq_iff_eq] at h
  rcases h with ((rfl | rfl) | rfl) | rfl
  all_goals exact delimited_cons (by decide) (by decide)

/-- a symbol other than a number ends the number before it -/
theorem Symbol.SpelledBy.delimited {s : Symbol} {cs : List Char} (h : s.SpelledBy cs) (hs : s.isNumber = false)
    (rest : List Char) : Delimited (cs ++ rest) := by
  cases h with
  | number => cases hs
  | _ => exact delimited_cons (by decide) (by decide)

theorem SymbolsSpelledBy.delimited {ss : List Symbol} {cs : List Char} (h : SymbolsSpelledBy ss cs)
    (hss : ∀ s ∈ ss.head?, s.isNumber = false) : Delimited cs := by
  cases h with
  | nil hblanks =>
    cases cs with
    | nil => exact delimited_nil
    | cons c cs => exact delimited_of_isSpace (hblanks c List.mem_cons_self) cs
  | @cons s ss blanks cs rest hblanks hs hrest =>
    cases blanks with
    | nil => exact hs.delimited (hss s rfl) rest
    | cons c blanks => exact delimited_of_isSpace (hblanks c List.mem_cons_self) _

theorem lexemes_blanks {blanks : List Char} (h : ∀ c ∈ blanks, isSpace c = true) (rest : List Char) :
    lexemes (blanks ++ rest) = lexemes rest := by
  induction blanks with
  | nil => rfl
  | cons c blanks ih =>
    obtain ⟨hc, hblanks⟩ := List.forall_mem_cons.1 h
    rw [List.cons_append, lexemes, if_pos hc, ih hblanks]

/-- a symbol is cut into its lexeme; after a number must come something that ends it -/
theorem Symbol.SpelledBy.lexemes_eq {s : Symbol} {cs : List Char} (h : s.SpelledBy cs) {rest : List Char}
    (hr : s.isNumber = true → Delimited rest) : lexemes (cs ++ rest) = s.lexeme :: lexemes rest := by
  cases h with
  | number h => exact lexemes_spelled h (hr rfl)
  | text h =>
    have htext := textLexeme_pieces h rest
    rw [List.cons_append, List.append_assoc]
    exact lexemes_cons (by decide) htext
  | _ => exact lexemes_cons (by decide) rfl

/-- **Symbols and lexemes.** A row of symbols is cut into one lexeme for each. -/
theorem lexemes_symbols {ss : List Symbol} {cs : List Char} (h : SymbolsSpelledBy ss cs) (hapart : Apart ss) :
    lexemes cs = ss.map Symbol.lexeme := by
  induction h with
  | @nil blanks hblanks =>
    have hcut := lexemes_blanks hblanks []
    rwa [List.append_nil, lexemes] at hcut
  | @cons s ss blanks cs rest hblanks hs hrest ih =>
    rw [List.append_assoc, lexemes_blanks hblanks, hs.lexemes_eq, ih hapart.tail, List.map_cons]
    -- what comes after a number is no number
    intro hnumber
    refine hrest.delimited fun t ht => ?_
    rcases hapart.rel_head? ht with hno | hno
    · rw [hnumber] at hno
      cases hno
    · exact hno

end EntitySchema.Json
