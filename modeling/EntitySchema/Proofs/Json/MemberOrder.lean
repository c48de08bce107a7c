/-
Records written with other members. A record is read from its members one after the other; each goes to a place of its
own, so the order in which they stand does not matter. A member that the record does not know is passed over. One that
is read as what stands in for it anyway may be left off.

- `Codec.Keeps`: whatever is read from the one tree is read from the other, at every depth.
- `Members.fill_swap`, `Members.fill_perm`: two members may change places, and so all may stand in any order.
- `Members.complete_put?`: what stands in for a member that is left off.
- `Codec.keeps_reordered`, `Codec.keeps_inserted`, `Codec.keeps_leftOff`, `Codec.keeps_changed`: a record keeps what is
  read when its members change places, one that is not known is put in, one is left off, or the value of one is changed
  for another that keeps what is read.
- `Codec.keeps_item`, `Codec.Keeps.imap`: likewise for items of lists, and under another type.
-/
import EntitySchema.Proofs.Json.ReadBack

namespace EntitySchema.Json

open EntitySchema.Outcome

variable {α β : Type} {αs : List Type} {levels : Nat}

/-! ## Trees in place of others -/

namespace Codec

/-- whatever is read from the first tree is read from the second -/
def Keeps (c : Codec α) (t t' : Tree) : Prop := ∀ levels a, c.read levels t = .ok a → c.read levels t' = .ok a

theorem Keeps.refl (c : Codec α) (t : Tree) : c.Keeps t t := fun _ _ h => h

theorem Keeps.trans {c : Codec α} {t t' t'' : Tree} (h : c.Keeps t t') (h' : c.Keeps t' t'') : c.Keeps t t'' :=
  fun levels a hread => h' levels a (h levels a hread)

theorem Keeps.imap {c : Codec α} {forth : α → β} {back : β → α} {t t' : Tree} (h : c.Keeps t t') :
    (c.imap forth back).Keeps t t' := by
  intro levels b hread
  obtain ⟨a, ha, rfl⟩ := map_eq_ok.1 hread
  exact map_eq_ok.2 ⟨a, h levels a ha, rfl⟩

theorem readItems_append (read : Tree → Except Fault α) (ts us : List Tree) :
    readItems read (ts ++ us) = (readItems read ts).bind fun as => (readItems read us).map (as ++ ·) := by
  induction ts with
  | nil =>
    cases h : readItems read us <;> simp [readItems, h, Except.bind, Except.map]
  | cons t ts ih =>
    rw [List.cons_append, readItems, readItems, ih]
    cases read t with
    | error f => rfl
    | ok a =>
      cases readItems read ts with
      | error f => rfl
      | ok as => cases readItems read us <;> rfl

/-- one item of a list is changed for another -/
theorem keeps_item {c : Codec α} {t t' : Tree} (h : c.Keeps t t') (front back : List Tree) (ending : ListEnd) :
    (list c).Keeps (.list (front ++ t :: back) ending) (.list (front ++ t' :: back) ending) := by
  intro levels as hread
  cases levels with
  | zero => cases hread
  | succ levels =>
    simp only [list, deeper, readItems_append, readItems, bind_eq_ok, map_eq_ok] at hread ⊢
    obtain ⟨_, ⟨before, hbefore, _, ⟨a, ha, rest⟩, rfl⟩, hend⟩ := hread
    exact ⟨_, ⟨before, hbefore, _, ⟨a, h levels a ha, rest⟩, rfl⟩, hend⟩

end Codec

/-! ## Members one after the other -/

namespace Members

variable {ms : Members αs} {d e : Draft αs}

theorem fill_append (ms : Members αs) (d : Draft αs) (front back : List (Token String × Tree)) :
    ms.fill levels d (front ++ back) = (ms.fill levels d front).bind fun d => ms.fill levels d back := by
  induction front generalizing d with
  | nil => rfl
  | cons m front ih =>
    obtain ⟨key, t⟩ := m
    have hassoc : ∀ {γ δ : Type} (x : Except Fault γ) (f : γ → Except Fault δ) (g : δ → Except Fault (Draft αs)),
        (x.bind f).bind g = x.bind fun a => (f a).bind g := by
      intro γ δ x f g
      cases x <;> rfl
    simp only [List.cons_append, fill, hassoc, ih]

/-- one member is read under its name, or it is not known and passed over -/
theorem fill_one_eq_ok {key : Token String} {t : Tree} :
    ms.fill levels d [(key, t)] = .ok e ↔
      ∃ name, key.strict = .ok name ∧
        (ms.put? levels name t d = some (.ok e) ∨ ms.put? levels name t d = none ∧ t.skip = .ok () ∧ d = e) := by
  simp only [fill, bind_eq_ok, Except.ok.injEq, exists_eq_right]
  refine exists_congr fun name => and_congr_right fun _ => ?_
  cases ms.put? levels name t d with
  | some r => simp
  | none => simp [mapConst_eq_ok]

/-- a member is passed over just when the record does not know its name -/
theorem put?_eq_none_iff {name : String} {t : Tree} : ms.put? levels name t d = none ↔ name ∉ ms.names := by
  induction ms with
  | nil => simp [put?, names]
  | cons m ms ih =>
    obtain ⟨slot, d⟩ := d
    by_cases hname : m.name = name
    · simp [put?, names, hname]
    · simp [put?, names, hname, Ne.symm hname, ih]

/-- a member is read into its place if this is free, or it belongs to one of the others -/
theorem put?_cons_eq_ok {m : Member α} {slot : Option α} {name : String} {t : Tree} {e : Draft (α :: αs)} :
    (cons m ms).put? levels name t (slot, d) = some (.ok e) ↔
      (m.name = name ∧ slot = none ∧ ∃ a, m.codec.read levels t = .ok a ∧ (some a, d) = e) ∨
        (m.name ≠ name ∧ ∃ d', ms.put? levels name t d = some (.ok d') ∧ (slot, d') = e) := by
  by_cases hname : m.name = name
  · cases slot with
    | none =>
      simp only [put?, hname, if_true, Option.some.injEq, true_and, ne_eq, not_true_eq_false, false_and, or_false]
      exact map_eq_ok
    | some b => simp [put?, hname]
  · simp only [put?, hname, if_false, false_and, false_or, ne_eq, not_false_eq_true, true_and, Option.map_eq_some_iff]
    constructor
    · rintro ⟨r, hr, hmap⟩
      obtain ⟨d', rfl, hd'⟩ := map_eq_ok.1 hmap
      exact ⟨d', hr, hd'⟩
    · rintro ⟨d', hd', rfl⟩
      exact ⟨.ok d', hd', rfl⟩

/-- two members go to places of their own, in whatever order they are read -/
theorem put?_swap {n n' : String} {t t' : Tree} {f : Draft αs} (h : ms.put? levels n t d = some (.ok e))
    (h' : ms.put? levels n' t' e = some (.ok f)) :
    ∃ e', ms.put? levels n' t' d = some (.ok e') ∧ ms.put? levels n t e' = some (.ok f) := by
  induction ms with
  | nil => cases h
  | cons m ms ih =>
    obtain ⟨slot, d⟩ := d
    rcases put?_cons_eq_ok.1 h with ⟨hn, rfl, a, ha, rfl⟩ | ⟨hn, d₁, hd₁, rfl⟩
    · rcases put?_cons_eq_ok.1 h' with ⟨-, hfree, -⟩ | ⟨hn', d₂, hd₂, rfl⟩
      · cases hfree
      · exact ⟨(none, d₂), put?_cons_eq_ok.2 (.inr ⟨hn', d₂, hd₂, rfl⟩),
          put?_cons_eq_ok.2 (.inl ⟨hn, rfl, a, ha, rfl⟩)⟩
    · rcases put?_cons_eq_ok.1 h' with ⟨hn', rfl, b, hb, rfl⟩ | ⟨hn', d₂, hd₂, rfl⟩
      · exact ⟨(some b, d), put?_cons_eq_ok.2 (.inl ⟨hn', rfl, b, hb, rfl⟩),
          put?_cons_eq_ok.2 (.inr ⟨hn, d₁, hd₁, rfl⟩)⟩
      · obtain ⟨d', hd', hd₂'⟩ := ih hd₁ hd₂
        exact ⟨(slot, d'), put?_cons_eq_ok.2 (.inr ⟨hn', d', hd', rfl⟩),
          put?_cons_eq_ok.2 (.inr ⟨hn, d₂, hd₂', rfl⟩)⟩

/-- two members next to each other may change places -/
theorem fill_swap {m m' : Token String × Tree} (h : ms.fill levels d [m, m'] = .ok e) :
    ms.fill levels d [m', m] = .ok e := by
  have hsplit : ∀ n n' : Token String × Tree, ms.fill levels d [n, n'] = .ok e ↔
      ∃ d', ms.fill levels d [n] = .ok d' ∧ ms.fill levels d' [n'] = .ok e := fun n n' => by
    rw [← List.singleton_append, fill_append, bind_eq_ok]
  obtain ⟨key, t⟩ := m
  obtain ⟨key', t'⟩ := m'
  obtain ⟨d', h, h'⟩ := (hsplit _ _).1 h
  obtain ⟨name, hname, hput⟩ := fill_one_eq_ok.1 h
  obtain ⟨name', hname', hput'⟩ := fill_one_eq_ok.1 h'
  rw [hsplit]
  rcases hput with hput | ⟨hnone, hskip, rfl⟩
  · rcases hput' with hput' | ⟨hnone', hskip', rfl⟩
    · obtain ⟨e', he', hf⟩ := put?_swap hput hput'
      exact ⟨e', fill_one_eq_ok.2 ⟨name', hname', .inl he'⟩, fill_one_eq_ok.2 ⟨name, hname, .inl hf⟩⟩
    · -- what is passed over leaves everything as it is
      have hunknown : ms.put? levels name' t' d = none := put?_eq_none_iff.2 (put?_eq_none_iff.1 hnone')
      exact ⟨d, fill_one_eq_ok.2 ⟨name', hname', .inr ⟨hunknown, hskip', rfl⟩⟩,
        fill_one_eq_ok.2 ⟨name, hname, .inl hput⟩⟩
  · have hunknown : ms.put? levels name t e = none := put?_eq_none_iff.2 (put?_eq_none_iff.1 hnone)
    exact ⟨e, fill_one_eq_ok.2 ⟨name', hname', hput'⟩, fill_one_eq_ok.2 ⟨name, hname, .inr ⟨hunknown, hskip, rfl⟩⟩⟩

/-- **Any order.** Members may be read in any order. -/
theorem fill_perm {l l' : List (Token String × Tree)} (hperm : l.Perm l') (h : ms.fill levels d l = .ok e) :
    ms.fill levels d l' = .ok e := by
  induction hperm generalizing d with
  | nil => exact h
  | cons m _ ih =>
    rw [← List.singleton_append, fill_append, bind_eq_ok] at h ⊢
    obtain ⟨d', hm, hrest⟩ := h
    exact ⟨d', hm, ih hrest⟩
  | swap m m' l =>
    have hpair : ∀ n n' : Token String × Tree, n :: n' :: l = [n, n'] ++ l := fun n n' => rfl
    rw [hpair, fill_append, bind_eq_ok] at h ⊢
    obtain ⟨d', hm, hrest⟩ := h
    exact ⟨d', fill_swap hm, hrest⟩
  | trans _ _ ih ih' => exact ih' (ih h)

/-- a member may be read last, wherever it stands -/
theorem fill_middle {m : Token String × Tree} {before after : List (Token String × Tree)} :
    ms.fill levels d (before ++ m :: after) = .ok e ↔
      ∃ d', ms.fill levels d (before ++ after) = .ok d' ∧ ms.fill levels d' [m] = .ok e := by
  have hlast : (before ++ m :: after).Perm (before ++ after ++ [m]) :=
    List.perm_middle.trans (List.perm_append_singleton m (before ++ after)).symm
  rw [← bind_eq_ok, ← fill_append]
  exact ⟨fill_perm hlast, fill_perm hlast.symm⟩

/-! ## The member of a name -/

/-- this holds of the member with this name, if there is one -/
def At (P : ∀ {α : Type}, Member α → Prop) (name : String) : {αs : List Type} → Members αs → Prop
  | _, nil => True
  | _, cons m ms => if m.name = name then P m else ms.At P name

/-- what is read as the value that stands in for it is as good as absent -/
theorem complete_put? {name : String} {t : Tree}
    (hms : ms.At (fun m => ∀ levels a, m.codec.read levels t = .ok a → m.absent = some a) name)
    (h : ms.put? levels name t d = some (.ok e)) : ms.complete d = ms.complete e := by
  induction ms with
  | nil => cases h
  | cons m ms ih =>
    obtain ⟨slot, d⟩ := d
    rw [At] at hms
    rcases put?_cons_eq_ok.1 h with ⟨hname, rfl, a, ha, rfl⟩ | ⟨hname, d', hd', rfl⟩
    · rw [if_pos hname] at hms
      simp only [complete, hms levels a ha, Option.none_or, Option.some_or]
    · rw [if_neg hname] at hms
      simp only [complete, ih hms hd']

/-- a member with another tree, from which the same is read -/
theorem put?_changed {name : String} {t t' : Tree} (hms : ms.At (fun m => m.codec.Keeps t t') name)
    (h : ms.put? levels name t d = some (.ok e)) : ms.put? levels name t' d = some (.ok e) := by
  induction ms with
  | nil => cases h
  | cons m ms ih =>
    obtain ⟨slot, d⟩ := d
    rw [At] at hms
    rcases put?_cons_eq_ok.1 h with ⟨hname, rfl, a, ha, rfl⟩ | ⟨hname, d', hd', rfl⟩
    · rw [if_pos hname] at hms
      exact put?_cons_eq_ok.2 (.inl ⟨hname, rfl, a, hms levels a ha, rfl⟩)
    · rw [if_neg hname] at hms
      exact put?_cons_eq_ok.2 (.inr ⟨hname, d', ih hms hd', rfl⟩)

end Members

/-! ## Records -/

namespace Codec

variable {ms : Members αs} {title : String} {key : Token String} {name : String} {t t' : Tree}
  {before after : List (Token String × Tree)}

/-- a record keeps what is read when it comes to the same in the end -/
theorem keeps_object {l l' : List (Token String × Tree)}
    (h : ∀ levels d, ms.fill levels ms.blank l = .ok d →
      ∃ d', ms.fill levels ms.blank l' = .ok d' ∧ ms.complete d' = ms.complete d) :
    (ms.codec title).Keeps (.object l .closed) (.object l' .closed) := by
  intro levels row hread
  cases levels with
  | zero => cases hread
  | succ levels =>
    simp only [Members.codec, deeper, bind_eq_ok] at hread ⊢
    obtain ⟨d, hd, u, hend, hrow⟩ := hread
    obtain ⟨d', hd', hsame⟩ := h levels d hd
    exact ⟨d', hd', u, hend, hsame.trans hrow⟩

theorem keeps_reordered {l l' : List (Token String × Tree)} (h : l.Perm l') :
    (ms.codec title).Keeps (.object l .closed) (.object l' .closed) :=
  keeps_object fun _ d hd => ⟨d, Members.fill_perm h hd, rfl⟩

/-- a member that the record does not know is put in -/
theorem keeps_inserted (hkey : key.strict = .ok name) (hname : name ∉ ms.names) (hskip : t.skip = .ok ()) :
    (ms.codec title).Keeps (.object (before ++ after) .closed) (.object (before ++ (key, t) :: after) .closed) := by
  refine keeps_object fun levels d hd => ⟨d, ?_, rfl⟩
  have hunknown : ms.put? levels name t d = none := Members.put?_eq_none_iff.2 hname
  exact Members.fill_middle.2 ⟨d, hd, Members.fill_one_eq_ok.2 ⟨name, hkey, .inr ⟨hunknown, hskip, rfl⟩⟩⟩

/-- a member that is read as what stands in for it is left off -/
theorem keeps_leftOff (hkey : key.strict = .ok name)
    (hms : ms.At (fun m => ∀ levels a, m.codec.read levels t = .ok a → m.absent = some a) name) :
    (ms.codec title).Keeps (.object (before ++ (key, t) :: after) .closed) (.object (before ++ after) .closed) := by
  refine keeps_object fun levels d hd => ?_
  obtain ⟨d', hd', hone⟩ := Members.fill_middle.1 hd
  obtain ⟨name', hname', hput⟩ := Members.fill_one_eq_ok.1 hone
  obtain rfl : name = name' := Except.ok.inj (hkey.symm.trans hname')
  rcases hput with hput | ⟨-, -, rfl⟩
  · exact ⟨d', hd', Members.complete_put? hms hput⟩
  · exact ⟨d', hd', rfl⟩

/-- the value of a member that the record knows is changed for another -/
theorem keeps_changed (hkey : key.strict = .ok name) (hname : name ∈ ms.names)
    (hms : ms.At (fun m => m.codec.Keeps t t') name) :
    (ms.codec title).Keeps (.object (before ++ (key, t) :: after) .closed)
      (.object (before ++ (key, t') :: after) .closed) := by
  refine keeps_object fun levels d hd => ⟨d, ?_, rfl⟩
  obtain ⟨d', hd', hone⟩ := Members.fill_middle.1 hd
  obtain ⟨name', hname', hput⟩ := Members.fill_one_eq_ok.1 hone
  obtain rfl : name = name' := Except.ok.inj (hkey.symm.trans hname')
  rcases hput with hput | ⟨hnone, -, -⟩
  · have hchanged : ms.put? levels name t' d' = some (.ok d) := Members.put?_changed hms hput
    exact Members.fill_middle.2 ⟨d', hd', Members.fill_one_eq_ok.2 ⟨name, hkey, .inl hchanged⟩⟩
  · exact absurd hname (Members.put?_eq_none_iff.1 hnone)

end Codec

end EntitySchema.Json
