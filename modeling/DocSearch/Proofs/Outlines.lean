import DocSearch.Proofs.AskedParts
import DocSearch.Proofs.DataTexts
import DocSearch.Proofs.Passing

/-!
# Outlines

A text that can be read as a data value has an outline, and what is read from the outline is the
part of the value that is asked for. Items and members are read by the same readers in both, so it
is enough that one reader of values follows another one.
-/

namespace DocSearch.Json

/-! ### Steps of a reader -/

section Steps

variable {α β : Type} {name : List Char → Except Fault (β × List Char)}
variable {value : List Char → Except Fault (α × List Char)}
variable {fuel : Nat} {s rest : List Char} {as : List α} {ms : List (β × α)}

theorem exists_of_moreItems (h : moreItems value (fuel + 1) s = .ok (as, rest)) :
    skipSpace s = ']' :: rest ∧ as = [] ∨
    ∃ before c t x y, skipSpace s = ',' :: before ∧ skipSpace before = c :: t ∧ c ≠ ']' ∧
      value (c :: t) = .ok x ∧ moreItems value fuel x.2 = .ok y ∧
      (x.1 :: y.1, y.2) = (as, rest) := by
  rw [moreItems] at h
  split at h
  · cases h
  · next hend =>
    cases h
    exact Or.inl ⟨hend, rfl⟩
  · next before hcomma =>
    split at h
    · cases h
    · cases h
    · next hnil hend =>
      obtain ⟨c, t, hnext⟩ := List.exists_cons_of_ne_nil hnil
      obtain ⟨x, hx, h⟩ := bind_eq_ok_iff.mp h
      obtain ⟨y, hy, h⟩ := bind_eq_ok_iff.mp h
      refine Or.inr ⟨before, c, t, x, y, hcomma, hnext, ?_, hnext ▸ hx, hy, Except.ok.inj h⟩
      rintro rfl
      exact hend t hnext
  · cases h

theorem exists_of_items (h : items value s = .ok (as, rest)) :
    skipSpace s = ']' :: rest ∧ as = [] ∨
    ∃ c t x y, skipSpace s = c :: t ∧ c ≠ ']' ∧ value (c :: t) = .ok x ∧
      moreItems value s.length x.2 = .ok y ∧ (x.1 :: y.1, y.2) = (as, rest) := by
  rw [items] at h
  split at h
  · cases h
  · next hend =>
    cases h
    exact Or.inl ⟨hend, rfl⟩
  · next hnil hend =>
    obtain ⟨c, t, hfirst⟩ := List.exists_cons_of_ne_nil hnil
    obtain ⟨x, hx, h⟩ := bind_eq_ok_iff.mp h
    obtain ⟨y, hy, h⟩ := bind_eq_ok_iff.mp h
    refine Or.inr ⟨c, t, x, y, hfirst, ?_, hfirst ▸ hx, hy, Except.ok.inj h⟩
    rintro rfl
    exact hend t hfirst

theorem exists_of_member {m : β × α} (h : member name value s = .ok (m, rest)) :
    ∃ key before t x, name s = .ok (key, before) ∧ skipSpace before = ':' :: t ∧
      value t = .ok x ∧ ((key, x.1), x.2) = (m, rest) := by
  obtain ⟨⟨key, before⟩, hkey, h⟩ := bind_eq_ok_iff.mp h
  dsimp only at h
  split at h
  · cases h
  · next t hcolon =>
    obtain ⟨x, hx, h⟩ := bind_eq_ok_iff.mp h
    exact ⟨key, before, t, x, hkey, hcolon, hx, Except.ok.inj h⟩
  · cases h

theorem exists_of_moreMembers (h : moreMembers name value (fuel + 1) s = .ok (ms, rest)) :
    skipSpace s = '\x7d' :: rest ∧ ms = [] ∨
    ∃ before t x y, skipSpace s = ',' :: before ∧ skipSpace before = '"' :: t ∧
      member name value t = .ok x ∧ moreMembers name value fuel x.2 = .ok y ∧
      (x.1 :: y.1, y.2) = (ms, rest) := by
  rw [moreMembers] at h
  split at h
  · cases h
  · next hend =>
    cases h
    exact Or.inl ⟨hend, rfl⟩
  · next before hcomma =>
    split at h
    · cases h
    · next t hquote =>
      obtain ⟨x, hx, h⟩ := bind_eq_ok_iff.mp h
      obtain ⟨y, hy, h⟩ := bind_eq_ok_iff.mp h
      exact Or.inr ⟨before, t, x, y, hcomma, hquote, hx, hy, Except.ok.inj h⟩
    · cases h
    · cases h
  · cases h

theorem exists_of_objectMembers (h : objectMembers name value s = .ok (ms, rest)) :
    skipSpace s = '\x7d' :: rest ∧ ms = [] ∨
    ∃ t x y, skipSpace s = '"' :: t ∧ member name value t = .ok x ∧
      moreMembers name value s.length x.2 = .ok y ∧ (x.1 :: y.1, y.2) = (ms, rest) := by
  rw [objectMembers] at h
  split at h
  · cases h
  · next hend =>
    cases h
    exact Or.inl ⟨hend, rfl⟩
  · next t hquote =>
    obtain ⟨x, hx, h⟩ := bind_eq_ok_iff.mp h
    obtain ⟨y, hy, h⟩ := bind_eq_ok_iff.mp h
    exact Or.inr ⟨t, x, y, hquote, hx, hy, Except.ok.inj h⟩
  · cases h

end Steps

/-! ### Readers side by side -/

section Sides

variable {α β γ δ : Type}

/-- On texts up to a length, a reader succeeds where another one does, leaves the same rest of the
text and has a result that corresponds to the other one. -/
def Follows (n : Nat) (read : List Char → Except Fault (α × List Char))
    (other : List Char → Except Fault (β × List Char)) (R : α → β → Prop) : Prop :=
  ∀ s a rest, s.length ≤ n → read s = .ok (a, rest) →
    rest <:+ s ∧ ∃ b, other s = .ok (b, rest) ∧ R a b

theorem skipSpace_suffix (s : List Char) : skipSpace s <:+ s := List.dropWhile_suffix _

namespace Follows

variable {n fuel : Nat} {R : α → β → Prop} {S : γ → δ → Prop}
variable {name : List Char → Except Fault (γ × List Char)}
variable {name' : List Char → Except Fault (δ × List Char)}
variable {value : List Char → Except Fault (α × List Char)}
variable {value' : List Char → Except Fault (β × List Char)}

theorem moreItems (h : Follows n value value' R) :
    Follows n (moreItems value fuel) (Json.moreItems value' fuel) (List.Forall₂ R) := by
  induction fuel with
  | zero =>
    intro s as rest hs hread
    cases hread
  | succ fuel ih =>
    intro s as rest hs hread
    have hspace := skipSpace_suffix s
    obtain ⟨hend, rfl⟩ |
      ⟨before, c, t, ⟨a, after⟩, ⟨as', rest'⟩, hcomma, hnext, hne, hvalue, hmore, heq⟩ :=
      exists_of_moreItems hread
    · rw [hend] at hspace
      refine ⟨(List.suffix_cons _ _).trans hspace, [], ?_, .nil⟩
      rw [Json.moreItems, hend]
      rfl
    · obtain ⟨rfl, rfl⟩ := Prod.mk.inj heq
      rw [hcomma] at hspace
      have hbefore : c :: t <:+ s :=
        (hnext ▸ skipSpace_suffix before).trans ((List.suffix_cons _ _).trans hspace)
      obtain ⟨hafter, b, hvalue', hR⟩ := h _ _ _ (Nat.le_trans hbefore.length_le hs) hvalue
      obtain ⟨hrest, bs, hmore', hRs⟩ :=
        ih _ _ _ (Nat.le_trans (hafter.trans hbefore).length_le hs) hmore
      refine ⟨hrest.trans (hafter.trans hbefore), b :: bs, ?_, .cons hR hRs⟩
      rw [moreItems_comma hcomma hnext hne, hvalue', ok_bind, hmore', ok_bind]

theorem items (h : Follows n value value' R) :
    Follows n (items value) (Json.items value') (List.Forall₂ R) := by
  intro s as rest hs hread
  have hspace := skipSpace_suffix s
  obtain ⟨hend, rfl⟩ | ⟨c, t, ⟨a, after⟩, ⟨as', rest'⟩, hfirst, hne, hvalue, hmore, heq⟩ :=
    exists_of_items hread
  · rw [hend] at hspace
    refine ⟨(List.suffix_cons _ _).trans hspace, [], ?_, .nil⟩
    rw [Json.items, hend]
    rfl
  · obtain ⟨rfl, rfl⟩ := Prod.mk.inj heq
    rw [hfirst] at hspace
    obtain ⟨hafter, b, hvalue', hR⟩ := h _ _ _ (Nat.le_trans hspace.length_le hs) hvalue
    obtain ⟨hrest, bs, hmore', hRs⟩ :=
      h.moreItems _ _ _ (Nat.le_trans (hafter.trans hspace).length_le hs) hmore
    refine ⟨hrest.trans (hafter.trans hspace), b :: bs, ?_, .cons hR hRs⟩
    rw [items_cons hfirst hne, hvalue', ok_bind, hmore', ok_bind]

theorem member (hname : Follows n name name' S) (h : Follows n value value' R) :
    Follows n (member name value) (Json.member name' value')
      fun m m' => S m.1 m'.1 ∧ R m.2 m'.2 := by
  intro s m rest hs hread
  obtain ⟨key, before, t, ⟨a, after⟩, hkey, hcolon, hvalue, heq⟩ := exists_of_member hread
  obtain ⟨rfl, rfl⟩ := Prod.mk.inj heq
  obtain ⟨hbefore, key', hkey', hS⟩ := hname _ _ _ hs hkey
  have hspace := skipSpace_suffix before
  rw [hcolon] at hspace
  have ht : t <:+ s := (List.suffix_cons _ _).trans (hspace.trans hbefore)
  obtain ⟨hrest, b, hvalue', hR⟩ := h _ _ _ (Nat.le_trans ht.length_le hs) hvalue
  refine ⟨hrest.trans ht, (key', b), ?_, hS, hR⟩
  rw [member_colon hkey' hcolon, hvalue', ok_bind]

theorem moreMembers (hname : Follows n name name' S) (h : Follows n value value' R) :
    Follows n (moreMembers name value fuel) (Json.moreMembers name' value' fuel)
      (List.Forall₂ fun m m' => S m.1 m'.1 ∧ R m.2 m'.2) := by
  induction fuel with
  | zero =>
    intro s ms rest hs hread
    cases hread
  | succ fuel ih =>
    intro s ms rest hs hread
    have hspace := skipSpace_suffix s
    obtain ⟨hend, rfl⟩ |
      ⟨before, t, ⟨m, after⟩, ⟨ms', rest'⟩, hcomma, hquote, hmember, hmore, heq⟩ :=
      exists_of_moreMembers hread
    · rw [hend] at hspace
      refine ⟨(List.suffix_cons _ _).trans hspace, [], ?_, .nil⟩
      rw [Json.moreMembers, hend]
      rfl
    · obtain ⟨rfl, rfl⟩ := Prod.mk.inj heq
      rw [hcomma] at hspace
      have hbefore := skipSpace_suffix before
      rw [hquote] at hbefore
      have ht : t <:+ s := (List.suffix_cons _ _).trans
        (hbefore.trans ((List.suffix_cons _ _).trans hspace))
      obtain ⟨hafter, m', hmember', hR⟩ :=
        hname.member h _ _ _ (Nat.le_trans ht.length_le hs) hmember
      obtain ⟨hrest, ms', hmore', hRs⟩ :=
        ih _ _ _ (Nat.le_trans (hafter.trans ht).length_le hs) hmore
      refine ⟨hrest.trans (hafter.trans ht), m' :: ms', ?_, .cons hR hRs⟩
      rw [moreMembers_comma hcomma hquote, hmember', ok_bind, hmore', ok_bind]

theorem objectMembers (hname : Follows n name name' S) (h : Follows n value value' R) :
    Follows n (objectMembers name value) (Json.objectMembers name' value')
      (List.Forall₂ fun m m' => S m.1 m'.1 ∧ R m.2 m'.2) := by
  intro s ms rest hs hread
  have hspace := skipSpace_suffix s
  obtain ⟨hend, rfl⟩ | ⟨t, ⟨m, after⟩, ⟨ms', rest'⟩, hquote, hmember, hmore, heq⟩ :=
    exists_of_objectMembers hread
  · rw [hend] at hspace
    refine ⟨(List.suffix_cons _ _).trans hspace, [], ?_, .nil⟩
    rw [Json.objectMembers, hend]
    rfl
  · obtain ⟨rfl, rfl⟩ := Prod.mk.inj heq
    rw [hquote] at hspace
    have ht : t <:+ s := (List.suffix_cons _ _).trans hspace
    obtain ⟨hafter, m', hmember', hR⟩ :=
      hname.member h _ _ _ (Nat.le_trans ht.length_le hs) hmember
    obtain ⟨hrest, ms', hmore', hRs⟩ :=
      hname.moreMembers h _ _ _ (Nat.le_trans (hafter.trans ht).length_le hs) hmore
    refine ⟨hrest.trans (hafter.trans ht), m' :: ms', ?_, .cons hR hRs⟩
    rw [objectMembers_quote hquote, hmember', ok_bind, hmore', ok_bind]

end Follows

end Sides

/-! ### Outlines -/

section Outlines

variable {levels n : Nat} {s rest : List Char} {a : Json} {c : Char}

/-- Where a name can be read, the attempt to read it succeeds. -/
theorem follows_text (n : Nat) :
    Follows n text (attempt passText text) fun t made => made = some t := by
  intro s t rest hs h
  have hpass := passText_of_text h
  refine ⟨passChars_suffix hpass, some t, ?_, rfl⟩
  rw [attempt, hpass, h]
  rfl

theorem read_nothing (levels : Nat) (o : Outline) : o.read .nothing levels = some .null := by
  cases o <;> rfl

theorem read_plain {asked : Asked} (h : asked ≠ .nothing) (made : Option Json) :
    (Outline.plain made).read asked levels = made := by
  cases asked with
  | nothing => exact absurd rfl h
  | all | record | each => rfl

theorem read_array {asked : Asked} (h : asked ≠ .nothing) (os : List Outline) :
    (Outline.array os).read asked (levels + 1) =
      (Outline.readItems asked levels 0 os).map .array := by
  cases asked with
  | nothing => exact absurd rfl h
  | all | record | each => rfl

theorem read_object {asked : Asked} (h : asked ≠ .nothing) (os : List (Option String × Outline)) :
    (Outline.object os).read asked (levels + 1) =
      (Outline.readMembers asked levels os).map .object := by
  cases asked with
  | nothing => exact absurd rfl h
  | all | record | each => rfl

/-- What can be read from an outline are the parts of a value. -/
def Outlines (levels : Nat) (a : Json) (o : Outline) : Prop :=
  ∀ asked : Asked, o.read asked levels = some (asked.part a)

theorem Outlines.of_asked {o : Outline}
    (h : ∀ asked ≠ Asked.nothing, o.read asked levels = some (asked.part a)) :
    Outlines levels a o := by
  intro asked
  by_cases hasked : asked = .nothing
  · rw [hasked, read_nothing, Asked.part_nothing]
  · exact h asked hasked

theorem Outlines.items {as : List Json} {os : List Outline}
    (h : List.Forall₂ (Outlines levels) as os) (asked : Asked) (place : Nat) :
    Outline.readItems asked levels place os = some (asked.partItems place as) := by
  induction h generalizing place with
  | nil => rfl
  | cons ha _ ih =>
    rw [Outline.readItems, ha, ih]
    rfl

theorem Outlines.members {ms : List (String × Json)} {os : List (Option String × Outline)}
    (h : List.Forall₂ (fun m o => o.1 = some m.1 ∧ Outlines levels m.2 o.2) ms os) (asked : Asked) :
    Outline.readMembers asked levels os = some (asked.partMembers ms) := by
  induction h with
  | nil => rfl
  | @cons m o _ _ hm _ ih =>
    obtain ⟨name, o⟩ := o
    obtain ⟨rfl, ha⟩ := hm
    rw [Outline.readMembers, Option.bind_eq_bind, Option.bind_some, ha, ih]
    rfl

theorem Outlines.array {as : List Json} {os : List Outline}
    (h : List.Forall₂ (Outlines levels) as os) : Outlines (levels + 1) (.array as) (.array os) := by
  refine .of_asked fun asked hasked => ?_
  rw [read_array hasked, Outlines.items h, Asked.part_array hasked]
  rfl

theorem Outlines.object {ms : List (String × Json)} {os : List (Option String × Outline)}
    (h : List.Forall₂ (fun m o => o.1 = some m.1 ∧ Outlines levels m.2 o.2) ms os) :
    Outlines (levels + 1) (.object ms) (.object os) := by
  refine .of_asked fun asked hasked => ?_
  rw [read_object hasked, Outlines.members h, Asked.part_object hasked]
  rfl

theorem Outlines.plain (ha : a.depth = 0) : Outlines levels a (.plain (some a)) := by
  refine .of_asked fun asked hasked => ?_
  rw [read_plain hasked, Asked.part_plain hasked ha]

/-- What a value begins with tells what it is. -/
theorem exists_of_value (h : value (levels + 1) s = .ok (a, rest)) :
    ∃ c t, skipSpace s = c :: t ∧ isSpace c = false ∧
      (c = '[' ∧ levels ≠ 0 ∧
          (∃ as, items (value levels) t = .ok (as, rest) ∧ a = .array as) ∨
        c = '\x7b' ∧ levels ≠ 0 ∧
          (∃ ms, objectMembers text (value levels) t = .ok (ms, rest) ∧ a = .object ms) ∨
        c ≠ '[' ∧ c ≠ '\x7b' ∧ value 1 (c :: t) = .ok (a, rest)) := by
  cases hspace : skipSpace s with
  | nil =>
    rw [value, hspace] at h
    cases h
  | cons c t =>
    have hc : isSpace c = false := by
      have := List.head?_dropWhile_not isSpace s
      rw [← skipSpace, hspace] at this
      simpa using this
    refine ⟨c, t, rfl, hc, ?_⟩
    by_cases harray : c = '['
    · subst harray
      rw [value, hspace] at h
      change (if levels = 0 then _ else _) = _ at h
      split at h
      · cases h
      · next hlevels =>
        obtain ⟨x, hx, h⟩ := bind_eq_ok_iff.mp h
        cases h
        exact Or.inl ⟨rfl, hlevels, x.1, hx, rfl⟩
    by_cases hobject : c = '\x7b'
    · subst hobject
      rw [value, hspace] at h
      change (if levels = 0 then _ else _) = _ at h
      split at h
      · cases h
      · next hlevels =>
        obtain ⟨x, hx, h⟩ := bind_eq_ok_iff.mp h
        cases h
        exact Or.inr (Or.inl ⟨rfl, hlevels, x.1, hx, rfl⟩)
    · refine Or.inr (Or.inr ⟨harray, hobject, ?_⟩)
      rw [← h, value, value, hspace, skipSpace_cons hc]
      simp only [if_neg harray, if_neg hobject]

theorem outline_bracket (hs : skipSpace s = '[' :: rest) :
    outline (levels + 1) s = (items (outline levels) rest >>= fun x => .ok (.array x.1, x.2)) := by
  rw [outline, hs]
  rfl

theorem outline_brace (hs : skipSpace s = '\x7b' :: rest) :
    outline (levels + 1) s = (objectMembers (attempt passText text) (outline levels) rest >>=
      fun x => .ok (.object x.1, x.2)) := by
  rw [outline, hs]
  rfl

theorem outline_plain (hs : skipSpace s = c :: rest) (harray : c ≠ '[') (hobject : c ≠ '\x7b') :
    outline (levels + 1) s = (attempt passPlain (value 1) (c :: rest) >>=
      fun x => .ok (.plain x.1, x.2)) := by
  rw [outline, hs]
  dsimp only
  rw [if_neg harray, if_neg hobject]

/-- A text that holds a value has an outline, and every part of the value can be read from it. The
induction is on the length of the text, which bounds how deep its outline is looked for. -/
theorem follows_value (n levels : Nat) :
    Follows n (value (levels + 1)) (outline (n + 1)) (Outlines levels) := by
  induction n generalizing levels with
  | zero =>
    intro s a rest hs h
    obtain ⟨c, t, hspace, -⟩ := exists_of_value h
    rw [List.length_eq_zero_iff.mp (Nat.le_zero.mp hs)] at hspace
    cases hspace
  | succ n ih =>
    intro s a rest hs h
    obtain ⟨c, t, hspace, hc, hcases⟩ := exists_of_value h
    have hsuffix : c :: t <:+ s := hspace ▸ skipSpace_suffix s
    have ht : t.length ≤ n := by
      have := hsuffix.length_le
      rw [List.length_cons] at this
      omega
    obtain ⟨rfl, hlevels, as, has, rfl⟩ | ⟨rfl, hlevels, ms, hms, rfl⟩ |
      ⟨harray, hobject, hplain⟩ := hcases
    · obtain ⟨k, rfl⟩ := Nat.exists_eq_succ_of_ne_zero hlevels
      obtain ⟨hrest, os, hos, hread⟩ := (ih k).items _ _ _ ht has
      refine ⟨hrest.trans ((List.suffix_cons _ _).trans hsuffix), .array os, ?_, .array hread⟩
      rw [outline_bracket hspace, hos, ok_bind]
    · obtain ⟨k, rfl⟩ := Nat.exists_eq_succ_of_ne_zero hlevels
      obtain ⟨hrest, os, hos, hread⟩ := (follows_text n).objectMembers (ih k) _ _ _ ht hms
      refine ⟨hrest.trans ((List.suffix_cons _ _).trans hsuffix), .object os, ?_, .object hread⟩
      rw [outline_brace hspace, hos, ok_bind]
    · obtain ⟨hpass, ha⟩ := passPlain_of_value hc harray hobject hplain
      refine ⟨(passPlain_suffix hpass).trans hsuffix, .plain (some a), ?_, .plain ha⟩
      rw [outline_plain hspace harray hobject, attempt, hpass, hplain]
      rfl

end Outlines

/-- What is read of a text that holds a value is the part of the value that is asked for. -/
theorem parseAsked_of_parse {s : String} {a : Json} (h : parse s = .ok a) (asked : Asked) :
    parseAsked asked s = some (asked.part a) := by
  obtain ⟨⟨a', rest⟩, hvalue, hend⟩ := bind_eq_ok_iff.mp (mapError_eq_ok_iff.mp h)
  obtain ⟨-, o, houtline, ho⟩ :=
    follows_value s.toList.length (levelLimit - 1) _ _ _ (Nat.le_refl _) hvalue
  dsimp only at hend
  split at hend
  · next hspace =>
    cases hend
    rw [parseAsked, houtline]
    dsimp only
    rw [hspace, ho]
    rfl
  · cases hend

end DocSearch.Json
