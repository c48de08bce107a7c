/-
What is scanned is spelled by the rules. Wherever a lexeme is cut off the front of a text, the characters cut off spell a
symbol, and the lexeme is that of the symbol. A lexeme that is broken can neither be used nor be passed over.

- `pieces_of_scanText`: what is scanned up to a closing quote spells the units that come out.
- `unsignedBy_of_scanNumber`: what is scanned as a number spells the literal that comes out.
- `symbol_of_lexeme`: what is cut off as a lexeme spells a symbol with this lexeme.
- `Token.Intact`, `Lexeme.Intact`: the scalars and lexemes that can be used or passed over.
- `symbols_of_lexemes`: a text that is cut into such lexemes is a row of symbols.
-/
import EntitySchema.Proofs.Json.Symbols

namespace EntitySchema.Json

open EntitySchema.Decimal EntitySchema.Outcome

variable {cs rest : List Char}

/-! ## Quoted texts -/

theorem PiecesSpelledBy.nil : PiecesSpelledBy [] [] := ⟨[], .nil, rfl⟩

theorem PiecesSpelledBy.cons {p : Piece} {ps : List Piece} {part cs : List Char} (hp : p.SpelledBy part)
    (hps : PiecesSpelledBy ps cs) : PiecesSpelledBy (p :: ps) (part ++ cs) := by
  obtain ⟨parts, hparts, rfl⟩ := hps
  exact ⟨part :: parts, .cons hp hparts, rfl⟩

theorem mem_namedEscapes_of_unescape? {e c : Char} (h : unescape? e = some c) : (e, c) ∈ namedEscapes := by
  unfold unescape? at h
  repeat' split at h
  all_goals cases h
  all_goals subst_vars; decide

/-- what is scanned up to a closing quote spells the units that come out -/
theorem pieces_of_scanText {ps : List Piece} (h : scanText cs = (ps, .ok rest)) :
    ∃ part, PiecesSpelledBy ps part ∧ cs = part ++ '"' :: rest := by
  fun_induction scanText cs generalizing ps with
  | case2 a b c d cs n hcode qs r hscan ih =>
    obtain ⟨rfl, rfl⟩ := Prod.mk.inj h
    obtain ⟨part, hpart, rfl⟩ := ih hscan
    exact ⟨_, .cons (.code hcode) hpart, rfl⟩
  | case5 c cs _ _ e hescape qs r hscan ih =>
    obtain ⟨rfl, rfl⟩ := Prod.mk.inj h
    obtain ⟨part, hpart, rfl⟩ := ih hscan
    exact ⟨_, .cons (.escape (mem_namedEscapes_of_unescape? hescape)) hpart, rfl⟩
  | case8 cs =>
    cases h
    exact ⟨[], .nil, rfl⟩
  | case10 c cs _ _ hescape hlast hquote hcontrol qs r hscan ih =>
    obtain ⟨rfl, rfl⟩ := Prod.mk.inj h
    obtain ⟨part, hpart, rfl⟩ := ih hscan
    -- a backslash would have been read together with what follows it
    have hbackslash : c ≠ '\\' := by
      intro hc
      cases part with
      | nil => exact hescape _ _ hc rfl
      | cons d part => exact hescape _ _ hc rfl
    exact ⟨_, .cons (.plain hquote hbackslash hcontrol) hpart, rfl⟩
  | _ => cases h

/-- units before a fault stand for no text -/
theorem joinPieces_fault (f : Fault) (ps : List Piece) (cs : List Char) : joinPieces (some f) ps ≠ .ok cs := by
  have hmore : ∀ {x : Except Fault (List Char)} (c : Char), (∀ cs, x ≠ .ok cs) → ∀ cs, x.map (c :: ·) ≠ .ok cs := by
    intro x c hx cs hmap
    obtain ⟨cs, hcs, -⟩ := map_eq_ok.1 hmap
    exact hx cs hcs
  fun_induction joinPieces (some f) ps generalizing cs
  case case1 h => cases h
  case case3 ih | case6 ih | case9 ih | case11 ih | case13 ih => exact hmore _ ih cs
  all_goals nofun

/-! ## Words and numbers -/

theorem eq_append_of_scanWord {ws : List Char} (h : scanWord ws cs = .ok rest) : cs = ws ++ rest := by
  fun_induction scanWord ws cs with
  | case1 cs => exact Except.ok.inj h
  | case2 => cases h
  | case3 ws c cs ih => rw [ih h, List.cons_append]
  | case4 => cases h

theorem digits_of_scanDigits {ds : List Char} (h : scanDigits cs = .ok (ds, rest)) : SomeDigits ds ∧ cs = ds ++ rest := by
  cases cs with
  | nil => cases h
  | cons c cs =>
    rw [scanDigits] at h
    split at h
    · rename_i hc
      cases h
      refine ⟨⟨by simp [hc], fun d hd => ?_⟩, List.takeWhile_append_dropWhile.symm⟩
      exact List.all_eq_true.1 List.all_takeWhile d hd
    · cases h

theorem digits_of_scanWhole {ds : List Char} (h : scanWhole cs = .ok (ds, rest)) : WholeDigits ds ∧ cs = ds ++ rest := by
  unfold scanWhole at h
  split at h
  · split at h
    · cases h
    · cases h
      exact ⟨⟨⟨by simp, by simp⟩, fun _ => rfl⟩, rfl⟩
  · rename_i hzero
    obtain ⟨hds, rfl⟩ := digits_of_scanDigits h
    refine ⟨⟨hds, fun hhead => ?_⟩, rfl⟩
    obtain ⟨ds, rfl⟩ := List.head?_eq_some_iff.1 hhead
    exact absurd rfl (hzero (ds ++ rest))

theorem spelled_of_scanFraction {fraction : Option (List Char)} (h : scanFraction cs = .ok (fraction, rest)) :
    ∃ part, Literal.SpelledFraction fraction part ∧ cs = part ++ rest := by
  unfold scanFraction at h
  split at h
  · obtain ⟨⟨ds, rest⟩, hscan, heq⟩ := map_eq_ok.1 h
    cases heq
    obtain ⟨hds, rfl⟩ := digits_of_scanDigits hscan
    exact ⟨_, .some hds, rfl⟩
  · cases h
    exact ⟨[], .none, rfl⟩

theorem spelled_of_scanPower {negative : Bool} {ds : List Char} (h : scanPower cs = .ok ((negative, ds), rest)) :
    ∃ sign, Literal.SpelledSign negative sign ∧ SomeDigits ds ∧ cs = sign ++ ds ++ rest := by
  -- in each case the digits come after the sign
  have hdigits : ∀ {b : Bool} {more sign : List Char}, Literal.SpelledSign b sign →
      ((scanDigits more).map fun p => ((b, p.1), p.2)) = .ok ((negative, ds), rest) →
      ∃ sign', Literal.SpelledSign negative sign' ∧ SomeDigits ds ∧ sign ++ more = sign' ++ ds ++ rest := by
    intro b more sign hsign hmap
    obtain ⟨⟨ds, rest⟩, hscan, heq⟩ := map_eq_ok.1 hmap
    cases heq
    obtain ⟨hds, rfl⟩ := digits_of_scanDigits hscan
    exact ⟨sign, hsign, hds, (List.append_assoc ..).symm⟩
  unfold scanPower at h
  split at h
  · exact hdigits .minus h
  · exact hdigits .plus h
  · exact hdigits .none h

theorem spelled_of_scanExponent {exponent : Option (Bool × List Char)} (h : scanExponent cs = .ok (exponent, rest)) :
    ∃ part, Literal.SpelledExponent exponent part ∧ cs = part ++ rest := by
  have hpower : ∀ {mark : Char} {more : List Char}, mark = 'e' ∨ mark = 'E' →
      ((scanPower more).map fun p => (some p.1, p.2)) = .ok (exponent, rest) →
      ∃ part, Literal.SpelledExponent exponent part ∧ mark :: more = part ++ rest := by
    intro mark more hmark hmap
    obtain ⟨⟨⟨negative, ds⟩, rest⟩, hscan, heq⟩ := map_eq_ok.1 hmap
    cases heq
    obtain ⟨sign, hsign, hds, rfl⟩ := spelled_of_scanPower hscan
    exact ⟨_, .some hmark hsign hds, rfl⟩
  unfold scanExponent at h
  split at h
  · exact hpower (.inl rfl) h
  · exact hpower (.inr rfl) h
  · cases h
    exact ⟨[], .none, rfl⟩

/-- what is scanned as a number spells the literal that comes out -/
theorem unsignedBy_of_scanNumber {negative : Bool} {w : Literal} (h : scanNumber negative cs = .ok (w, rest)) :
    w.negative = negative ∧ ∃ part, w.UnsignedBy part ∧ cs = part ++ rest := by
  unfold scanNumber at h
  split at h
  · cases h
  · rename_i hwhole
    split at h
    · cases h
    · rename_i hfraction
      split at h
      · cases h
      · rename_i hexponent
        cases h
        obtain ⟨hdigits, rfl⟩ := digits_of_scanWhole hwhole
        obtain ⟨fraction, hpoint, rfl⟩ := spelled_of_scanFraction hfraction
        obtain ⟨exponent, hpower, rfl⟩ := spelled_of_scanExponent hexponent
        exact ⟨rfl, _, .intro hdigits hpoint hpower, by rw [List.append_assoc, List.append_assoc]⟩

/-! ## Lexemes -/

/-- the scalar can be used or, if not, at least be passed over -/
def Token.Intact {α : Type} (t : Token α) : Prop := (∃ a, t.strict = .ok a) ∨ t.loose = none

/-- the lexeme can be used or passed over -/
def Lexeme.Intact : Lexeme → Prop
  | .text t => t.Intact
  | .plain t => t.Intact
  | .stray => False
  | _ => True

theorem not_intact {α : Type} {t : Token α} (hstrict : ∀ a, t.strict ≠ .ok a) (hloose : t.loose ≠ none) : ¬t.Intact := by
  rintro (⟨a, ha⟩ | hnone)
  · exact hstrict a ha
  · exact hloose hnone

variable {l : Lexeme}

theorem text_of_textLexeme (h : textLexeme cs = (l, some rest)) :
    ∃ s part, Symbol.SpelledBy s ('"' :: part) ∧ cs = part ++ rest ∧ s.lexeme = l := by
  unfold textLexeme at h
  split at h
  · rename_i ps rest hscan
    cases h
    obtain ⟨part, hpart, rfl⟩ := pieces_of_scanText hscan
    exact ⟨.text ps, part ++ ['"'], .text hpart, by simp, rfl⟩
  · cases h

theorem not_intact_textLexeme (h : textLexeme cs = (l, none)) : ¬l.Intact := by
  unfold textLexeme at h
  split at h
  · cases h
  · rename_i ps f hscan
    cases h
    refine not_intact (fun s hs => ?_) (by simp)
    obtain ⟨cs, hcs, -⟩ := map_eq_ok.1 hs
    exact joinPieces_fault f ps cs hcs

theorem word_of_wordLexeme {s : Scalar} {ws : List Char} (h : wordLexeme s ws cs = (l, some rest)) :
    cs = ws ++ rest ∧ .plain ⟨.ok s, none⟩ = l := by
  unfold wordLexeme at h
  split at h
  · rename_i hscan
    cases h
    exact ⟨eq_append_of_scanWord hscan, rfl⟩
  · cases h

theorem not_intact_wordLexeme {s : Scalar} {ws : List Char} (h : wordLexeme s ws cs = (l, none)) : ¬l.Intact := by
  unfold wordLexeme at h
  split at h
  · cases h
  · cases h
    exact not_intact (by simp) (by simp)

theorem number_of_numberLexeme {negative : Bool} (h : numberLexeme negative cs = (l, some rest)) :
    ∃ w part, Literal.UnsignedBy w part ∧ w.negative = negative ∧ cs = part ++ rest ∧ (Symbol.number w).lexeme = l := by
  unfold numberLexeme at h
  split at h
  · rename_i w rest hscan
    obtain ⟨hnegative, part, hpart, rfl⟩ := unsignedBy_of_scanNumber hscan
    cases hn : w.number? with
    | some n =>
      rw [hn] at h
      cases h
      exact ⟨w, part, hpart, hnegative, rfl, by rw [Symbol.lexeme, numberOf, hn]; rfl⟩
    | none =>
      rw [hn] at h
      cases h
      exact ⟨w, part, hpart, hnegative, rfl, by rw [Symbol.lexeme, numberOf, hn]; rfl⟩
  · cases h

theorem not_intact_numberLexeme {negative : Bool} (h : numberLexeme negative cs = (l, none)) : ¬l.Intact := by
  unfold numberLexeme at h
  split at h
  · split at h <;> cases h
  · cases h
    exact not_intact (by simp) (by simp)

/-- what is cut off as a lexeme spells a symbol with this lexeme -/
theorem symbol_of_lexeme {c : Char} (h : lexeme c cs = (l, some rest)) :
    ∃ s part, Symbol.SpelledBy s part ∧ c :: cs = part ++ rest ∧ s.lexeme = l := by
  have hmark : ∀ {s : Symbol} {c : Char}, s.SpelledBy [c] → (s.lexeme, some cs) = (l, some rest) →
      ∃ s part, Symbol.SpelledBy s part ∧ c :: cs = part ++ rest ∧ s.lexeme = l := by
    rintro s c hs ⟨⟩
    exact ⟨s, [c], hs, rfl, rfl⟩
  have hword : ∀ {s : Symbol} {x : Scalar} {c : Char} {ws : List Char}, s.SpelledBy (c :: ws) →
      s.lexeme = .plain ⟨.ok x, none⟩ → wordLexeme x ws cs = (l, some rest) →
      ∃ s part, Symbol.SpelledBy s part ∧ c :: cs = part ++ rest ∧ s.lexeme = l := by
    intro s x c ws hs hlexeme hword
    obtain ⟨rfl, rfl⟩ := word_of_wordLexeme hword
    exact ⟨s, c :: ws, hs, rfl, hlexeme⟩
  unfold lexeme at h
  split at h
  · exact hmark .beginList h
  · exact hmark .endList h
  · exact hmark .beginObject h
  · exact hmark .endObject h
  · exact hmark .comma h
  · exact hmark .colon h
  · obtain ⟨s, part, hs, rfl, hl⟩ := text_of_textLexeme h
    exact ⟨s, _, hs, rfl, hl⟩
  · exact hword .null rfl h
  · exact hword .yes rfl h
  · exact hword .no rfl h
  · obtain ⟨w, part, hw, hnegative, rfl, hl⟩ := number_of_numberLexeme h
    exact ⟨.number w, _, .number (.negative hnegative hw), rfl, hl⟩
  · split at h
    · obtain ⟨w, part, hw, hnegative, hcs, hl⟩ := number_of_numberLexeme h
      exact ⟨.number w, part, .number (.positive hnegative hw), hcs, hl⟩
    · cases h

/-- a lexeme after which nothing can be cut off is broken -/
theorem not_intact_lexeme {c : Char} (h : lexeme c cs = (l, none)) : ¬l.Intact := by
  unfold lexeme at h
  split at h
  iterate 6
    · cases h
  · exact not_intact_textLexeme h
  iterate 3
    · exact not_intact_wordLexeme h
  · exact not_intact_numberLexeme h
  · split at h
    · exact not_intact_numberLexeme h
    · cases h
      exact id

/-- **Lexemes and symbols.** A text that is cut into lexemes none of which is broken is a row of symbols. -/
theorem symbols_of_lexemes (h : ∀ l ∈ lexemes cs, l.Intact) :
    ∃ ss, SymbolsSpelledBy ss cs ∧ ss.map Symbol.lexeme = lexemes cs := by
  fun_induction lexemes cs with
  | case1 => exact ⟨[], .nil (by simp), rfl⟩
  | case2 c cs hc ih =>
    obtain ⟨ss, hss, hmap⟩ := ih h
    have hblank : ∀ d ∈ [c], isSpace d = true := List.forall_mem_singleton.2 hc
    exact ⟨ss, hss.after_blanks hblank, hmap⟩
  | case3 c cs _ l hbroken => exact absurd (h l List.mem_cons_self) (not_intact_lexeme hbroken)
  | case4 c cs _ l rest hcut _ ih =>
    obtain ⟨s, part, hs, hpart, rfl⟩ := symbol_of_lexeme hcut
    obtain ⟨ss, hss, hmap⟩ := ih (List.forall_mem_cons.1 h).2
    refine ⟨s :: ss, ?_, by rw [List.map_cons, hmap]⟩
    rw [hpart]
    exact .before hs hss

end EntitySchema.Json
