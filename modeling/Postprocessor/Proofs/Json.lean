import Mathlib.Data.Bool.AllAny
import Mathlib.Data.List.Forall2
import Postprocessor.Json
import Postprocessor.Proofs.Decimal.Shown
import Postprocessor.Proofs.Running

/-!
# Proofs — Json texts tell values apart

An item of a Json text ends before a comma or a line feed.  What is between quotes has its end in
itself, and nothing else has a comma, a line feed or a quote in it.  So where two texts go on with
such an end and agree, their items agree, one after the other.  Only a symbol is not told from its
spelling.

* `Value.spelled`, `Value.IsTellable`: what a text tells of a value, and which values it tells.
* `Json.unescape?`, `escapeChar_prefixFree`: an escape is read back, so none begins another one.
* `Json.quote_cancel`: texts between quotes.
* `Json.Bare`, `Bare.unique`: values without quotes, of which no two have one text.
* `Json.Tells`: items are told apart by their texts, whatever the texts go on with.
* `Json.tells_atom`, `tells_entry`, `Tells.bracket`: values without parts, entries, and items
  between brackets.
* `Json.spelled_of_json`: lists of tables with one text are spelled alike.
-/

namespace Postprocessor

/-! ### Values -/

namespace Value

/-- A symbol as the text that spells it, and any other value as it is. -/
def spelled : Value → Value
  | .symbol s => .text s.word
  | v => v

/-- A value without parts that has a Json text of its own.  Undefined numbers have one name. -/
def IsTellable : Value → Prop
  | .null | .bool _ | .int _ | .text _ | .symbol _ | .float (.finite ..) | .float (.infinite _) =>
    True
  | _ => False

end Value

namespace Json

variable {rest rest' : List Char}

/-! ### Texts between quotes -/

/-- The characters that are escaped in an indented text. -/
def escaped : List Char := '"' :: '\\' :: (List.range 32).map Char.ofNat

/-- An escape begins with a backslash, and any other character stands for itself. -/
theorem escapeChar_eq (c : Char) :
    (c ∈ escaped ∧ ∃ more, escapeChar .indented c = '\\' :: more) ∨
      (c ∉ escaped ∧ escapeChar .indented c = [c]) := by
  by_cases h : c ∈ escaped
  · have heads : ∀ c ∈ escaped, (escapeChar .indented c).head? = some '\\' :=
      List.all_iff_forall_prop.mp rfl
    exact .inl ⟨h, List.head?_eq_some_iff.mp (heads c h)⟩
  · have printable : ¬ c.toNat < 32 := fun hc =>
      h (List.mem_cons_of_mem _ (List.mem_cons_of_mem _
        (List.mem_map.mpr ⟨c.toNat, List.mem_range.mpr hc, Char.ofNat_toNat c⟩)))
    have other : ∀ e ∈ escaped, (c == e) = false := fun e he =>
      beq_eq_false_iff_ne.mpr fun same => h (same ▸ he)
    refine .inr ⟨h, ?_⟩
    simp only [escapeChar, other '"' (by decide), other '\\' (by decide), other '\n' (by decide),
      other '\r' (by decide), other '\t' (by decide), other '\x08' (by decide),
      other '\x0c' (by decide), printable, reduceCtorEq, false_and, if_false, Bool.false_eq_true]

/-- The value of a hexadecimal digit. -/
def hexValue (c : Char) : Nat := if c.toNat < 58 then c.toNat - 48 else c.toNat - 87

/-- The character that an escape stands for: by its letter, or by the last two of its digits. -/
def unescape? (cs : List Char) : Option Char :=
  cs[1]?.bind fun letter =>
    if letter = 'u' then
      cs[4]?.bind fun high => cs[5]?.map fun low => Char.ofNat (16 * hexValue high + hexValue low)
    else
      [('"', '"'), ('\\', '\\'), ('n', '\n'), ('r', '\r'), ('t', '\t'), ('b', '\x08'),
        ('f', '\x0c')].lookup letter

theorem unescape?_escapeChar : ∀ c ∈ escaped, unescape? (escapeChar .indented c) = some c :=
  List.all_iff_forall_prop.mp rfl

/-- What follows an escape does not count. -/
theorem unescape?_of_prefix {cs ds : List Char} {c : Char} (h : cs <+: ds)
    (hc : unescape? cs = some c) : unescape? ds = some c := by
  have kept : ∀ {i : Nat} {d : Char}, cs[i]? = some d → ds[i]? = some d := by
    intro i d hd
    obtain ⟨hi, rfl⟩ := List.getElem?_eq_some_iff.mp hd
    exact List.prefix_iff_getElem?.mp h i hi
  simp only [unescape?, Option.bind_eq_some_iff] at hc ⊢
  obtain ⟨letter, hl, hc⟩ := hc
  refine ⟨letter, kept hl, ?_⟩
  split at hc
  · next u =>
    simp only [Option.bind_eq_some_iff, Option.map_eq_some_iff] at hc
    obtain ⟨high, hh, low, hw, hc⟩ := hc
    rw [if_pos u, kept hh, kept hw, ← hc]
    rfl
  · next u => rw [if_neg u, hc]

/-- **No escaped character begins another one.** -/
theorem escapeChar_prefixFree {c d : Char}
    (h : escapeChar .indented c <+: escapeChar .indented d) : c = d := by
  have backslash : '\\' ∈ escaped := by decide
  rcases escapeChar_eq c with ⟨hc, more, ec⟩ | ⟨hc, ec⟩ <;>
    rcases escapeChar_eq d with ⟨hd, more', ed⟩ | ⟨hd, ed⟩
  · have read := unescape?_of_prefix h (unescape?_escapeChar c hc)
    rw [unescape?_escapeChar d hd] at read
    exact (Option.some.inj read).symm
  · rw [ec, ed, List.cons_prefix_cons] at h
    exact absurd (h.1 ▸ backslash) hd
  · rw [ec, ed, List.cons_prefix_cons] at h
    exact absurd (h.1 ▸ backslash) hc
  · rw [ec, ed, List.cons_prefix_cons] at h
    exact h.1

theorem escapeChar_cancel {c d : Char}
    (h : escapeChar .indented c ++ rest = escapeChar .indented d ++ rest') :
    c = d ∧ rest = rest' := by
  have left := List.prefix_append (escapeChar .indented c) rest
  have right := List.prefix_append (escapeChar .indented d) rest'
  rw [← h] at right
  have same : c = d := ( List.prefix_or_prefix_of_prefix left right).elim
    escapeChar_prefixFree fun h => (escapeChar_prefixFree h).symm
  subst same
  exact ⟨rfl, List.append_cancel_left h⟩

/-- No character between quotes is taken for the closing one. -/
theorem quote_ne_escapeChar (c : Char) : '"' :: rest ≠ escapeChar .indented c ++ rest' := by
  have inside : '"' ∈ escaped := by decide
  intro h
  rcases escapeChar_eq c with ⟨-, more, e⟩ | ⟨hc, e⟩ <;> rw [e, List.cons_append] at h
  · cases h
  · exact hc ((List.cons.inj h).1 ▸ inside)

/-- **A text between quotes** has its end in itself. -/
theorem quote_cancel {s t : String}
    (h : (quote .indented s).toList ++ rest = (quote .indented t).toList ++ rest') :
    s = t ∧ rest = rest' := by
  have inner : ∀ cs ds : List Char,
      cs.flatMap (escapeChar .indented) ++ '"' :: rest =
        ds.flatMap (escapeChar .indented) ++ '"' :: rest' → cs = ds ∧ rest = rest' := by
    intro cs
    induction cs with
    | nil =>
        intro ds h
        cases ds with
        | nil => exact ⟨rfl, (List.cons.inj h).2⟩
        | cons d ds =>
            rw [List.flatMap_cons, List.append_assoc] at h
            exact absurd h (quote_ne_escapeChar d)
    | cons c cs ih =>
        intro ds h
        rw [List.flatMap_cons, List.append_assoc] at h
        cases ds with
        | nil => exact absurd h.symm (quote_ne_escapeChar c)
        | cons d ds =>
            rw [List.flatMap_cons, List.append_assoc] at h
            obtain ⟨first, others⟩ := escapeChar_cancel h
            obtain ⟨same, ends⟩ := ih ds others
            exact ⟨congrArg₂ List.cons first same, ends⟩
  simp only [quote, String.toList_ofList, List.cons_append, List.append_assoc,
    List.nil_append] at h
  obtain ⟨same, ends⟩ := inner _ _ (List.cons.inj h).2
  exact ⟨String.toList_inj.mp same, ends⟩

/-! ### Values without quotes -/

/-- The text goes on with the end of an item. -/
def EndsItem (cs : List Char) : Prop := ∃ c ∈ cs.head?, c = ',' ∨ c = '\n'

/-- The character neither opens a text between quotes nor ends an item. -/
def IsInner (c : Char) : Prop := c ≠ '"' ∧ c ≠ ',' ∧ c ≠ '\n'

instance (c : Char) : Decidable (IsInner c) := inferInstanceAs (Decidable (_ ∧ _))

/-- The values that go by a name. -/
def names : List (Value × String) :=
  [(.null, "null"), (.bool true, "true"), (.bool false, "false"),
    (.float (.infinite false), "Infinity"), (.float (.infinite true), "-Infinity")]

/-- A value with its text, where that is not between quotes. -/
inductive Bare : Value → List Char → Prop
  | name {v : Value} {n : String} (h : (v, n) ∈ names) : Bare v n.toList
  | whole (i : Int) : Bare (.int i) (intText i)
  | number (s : Bool) (r : Fin rankCount) :
    Bare (.float (.finite s r)) (Binary64.text (.finite s r))

variable {v w : Value} {cs ds : List Char}

/-- The text is read as a number and nothing else. -/
def IsRead (cs : List Char) : Prop := ∃ d, scanDecimal cs = some (d, [])

theorem isRead_intText (i : Int) : IsRead (intText i) := by
  rw [intText_eq_fixed]
  exact ⟨_, Decimal.scanDecimal_fixed _⟩

theorem isRead_text (s : Bool) (r : Fin rankCount) : IsRead (Binary64.text (.finite s r)) :=
  let ⟨d, scanned, _⟩ := Binary64.scanDecimal_text s r
  ⟨d, scanned⟩

/-- Numbers go by no name. -/
theorem IsRead.ne_name (h : IsRead cs) {n : String} (hn : (v, n) ∈ names) : cs ≠ n.toList := by
  have all : ∀ e ∈ names, scanDecimal e.2.toList = none := by decide
  obtain ⟨d, scanned⟩ := h
  rintro rfl
  rw [all _ hn] at scanned
  cases scanned

theorem IsRead.isInner (h : IsRead cs) : ∀ c ∈ cs, IsInner c := by
  obtain ⟨d, scanned⟩ := h
  obtain ⟨number, rfl, form, -⟩ := scanDecimal_eq scanned
  rw [List.append_nil]
  intro c hc
  rcases form.isNumeral c hc with digit | rfl | rfl | rfl | rfl | rfl
  · refine ⟨?_, ?_, ?_⟩ <;> rintro rfl <;> exact absurd digit (by decide)
  all_goals decide

theorem not_mem_intText {i : Int} {c : Char} (h : c ∈ intText i) : c ≠ '.' ∧ c ≠ 'e' := by
  have digit : ∀ c ∈ natText i.natAbs, c ≠ '.' ∧ c ≠ 'e' := by
    intro c hc
    have := isDigit_of_mem_natText hc
    constructor <;> rintro rfl <;> exact absurd this (by decide)
  rw [intText] at h
  split at h
  · rcases List.mem_cons.mp h with rfl | h
    · decide
    · exact digit c h
  · exact digit c h

/-- A whole number is not written as one that has a point or an exponent. -/
theorem intText_ne_text (i : Int) (s : Bool) (r : Fin rankCount) :
    intText i ≠ Binary64.text (.finite s r) := by
  intro same
  rcases Binary64.exists_point_or_exponent s r with point | exponent
  · exact (not_mem_intText (same ▸ point)).1 rfl
  · exact (not_mem_intText (same ▸ exponent)).2 rfl

namespace Bare

theorem isInner (h : Bare v cs) : ∀ c ∈ cs, IsInner c := by
  cases h with
  | name h =>
      have all : (names.all fun e => e.2.toList.all fun c => IsInner c) = true := rfl
      exact List.all_iff_forall_prop.mp (List.all_eq_true.mp all _ h)
  | whole i => exact (isRead_intText i).isInner
  | number s r => exact (isRead_text s r).isInner

/-- **No two values** have one text. -/
theorem unique (hv : Bare v cs) (hw : Bare w ds) (h : cs = ds) : v = w := by
  cases hv with
  | @name _ n hn =>
      cases hw with
      | @name _ m hm =>
          obtain rfl : n = m := String.toList_inj.mp h
          simp only [names, List.mem_cons, List.not_mem_nil, or_false, Prod.mk.injEq] at hn hm
          rcases hn with ⟨rfl, rfl⟩ | ⟨rfl, rfl⟩ | ⟨rfl, rfl⟩ | ⟨rfl, rfl⟩ | ⟨rfl, rfl⟩ <;>
            exact (by simpa using hm : w = _).symm
      | whole i => exact absurd h.symm ((isRead_intText i).ne_name hn)
      | number s r => exact absurd h.symm ((isRead_text s r).ne_name hn)
  | whole i =>
      cases hw with
      | name hn => exact absurd h ((isRead_intText i).ne_name hn)
      | whole j => rw [intText_injective h]
      | number s r => exact absurd h (intText_ne_text i s r)
  | number s r =>
      cases hw with
      | name hn => exact absurd h ((isRead_text s r).ne_name hn)
      | whole j => exact absurd h.symm (intText_ne_text j s r)
      | number t q =>
          obtain ⟨rfl, rfl⟩ := Binary64.finite_injective_of_text h
          rfl

/-- What is bare does not begin with a quote. -/
theorem ne_quote (h : Bare v cs) (hr : EndsItem rest) (s : String) :
    cs ++ rest ≠ (quote .indented s).toList ++ rest' := by
  intro same
  rw [quote, String.toList_ofList] at same
  cases cs with
  | nil =>
      obtain ⟨e, he, ends⟩ := hr
      rw [List.nil_append] at same
      rw [same] at he
      obtain rfl := Option.some.inj he
      exact absurd ends (by decide)
  | cons c cs => exact (h.isInner c (List.mem_cons_self ..)).1 (List.cons.inj same).1

end Bare

/-! ### Items -/

theorem EndsItem.cons {c : Char} (h : c = ',' ∨ c = '\n') (cs : List Char) : EndsItem (c :: cs) :=
  ⟨c, rfl, h⟩

/-- A text without quotes ends where an item ends. -/
theorem inner_cancel (hc : ∀ c ∈ cs, IsInner c) (hd : ∀ d ∈ ds, IsInner d) (hr : EndsItem rest)
    (hr' : EndsItem rest') (h : cs ++ rest = ds ++ rest') : cs = ds ∧ rest = rest' := by
  -- an item does not end with a character that is inside
  have inside : ∀ {c : Char} {more more' : List Char}, IsInner c → EndsItem more →
      more ≠ c :: more' := by
    rintro c _ more' inner ⟨e, he, ends⟩ rfl
    obtain rfl := Option.some.inj he
    exact ends.elim inner.2.1 inner.2.2
  induction cs generalizing ds with
  | nil =>
      cases ds with
      | nil => exact ⟨rfl, h⟩
      | cons d ds => exact absurd h (inside (hd d (List.mem_cons_self ..)) hr)
  | cons c cs ih =>
      cases ds with
      | nil => exact absurd h.symm (inside (hc c (List.mem_cons_self ..)) hr')
      | cons d ds =>
          obtain ⟨first, others⟩ := List.cons.inj h
          obtain ⟨same, ends⟩ := ih (fun e he => hc e (List.mem_cons_of_mem _ he))
            (fun e he => hd e (List.mem_cons_of_mem _ he)) others
          exact ⟨congrArg₂ List.cons first same, ends⟩

/-- Items with their texts: where two texts go on with the end of an item and agree, what the items
say is the same, and so is what follows. -/
def Tells {α β : Type} (R : α → String → Prop) (sense : α → β) : Prop :=
  ∀ ⦃x y : α⦄ ⦃t u : String⦄ ⦃rest rest' : List Char⦄, R x t → R y u → EndsItem rest →
    EndsItem rest' → t.toList ++ rest = u.toList ++ rest' → sense x = sense y ∧ rest = rest'

/-- A value without parts, with its text. -/
structure IsAtom (v : Value) (t : String) : Prop where
  tellable : v.IsTellable
  text : atom .indented v = .ok t

/-- The text is between quotes, or it is bare. -/
theorem IsAtom.cases {t : String} (h : IsAtom v t) :
    (∃ s, t = quote .indented s ∧ v.spelled = .text s) ∨ (Bare v t.toList ∧ v.spelled = v) := by
  obtain ⟨tellable, text⟩ := h
  cases v with
  | null =>
      cases text
      exact .inr ⟨.name (by simp [names]), rfl⟩
  | bool b =>
      cases text
      cases b <;> exact .inr ⟨.name (by simp [names]), rfl⟩
  | int i =>
      rw [atom, Value.intWritten] at text
      split at text <;> cases text
      refine .inr ⟨?_, rfl⟩
      rw [String.toList_ofList]
      exact .whole i
  | float x =>
      cases x with
      | finite s r =>
          cases text
          refine .inr ⟨?_, rfl⟩
          rw [number, String.toList_ofList]
          · exact .number s r
          · nofun
          · nofun
      | infinite s =>
          cases text
          cases s <;> exact .inr ⟨.name (by simp [names, number]), rfl⟩
      | undefined m => exact tellable.elim
  | text s =>
      cases text
      exact .inl ⟨s, rfl, rfl⟩
  | symbol s =>
      cases text
      exact .inl ⟨s.word, rfl, rfl⟩
  | _ => exact tellable.elim

/-- **Values without parts** are told apart, but for symbols and their spellings. -/
theorem tells_atom : Tells IsAtom Value.spelled := by
  intro v w t u rest rest' hv hw hr hr' h
  rcases hv.cases with ⟨s, rfl, sv⟩ | ⟨bare, sv⟩ <;>
    rcases hw.cases with ⟨s', rfl, sw⟩ | ⟨bare', sw⟩
  · obtain ⟨rfl, ends⟩ := quote_cancel h
    exact ⟨sv.trans sw.symm, ends⟩
  · exact absurd h.symm (bare'.ne_quote hr' s)
  · exact absurd h (bare.ne_quote hr s')
  · obtain ⟨same, ends⟩ := inner_cancel bare.isInner bare'.isInner hr hr' h
    exact ⟨by rw [sv, sw, bare.unique bare' same], ends⟩

/-- An entry of a table with its text. -/
def IsEntry (e : String × Value) (t : String) : Prop :=
  ∃ a, IsAtom e.2 a ∧ t = quote .indented e.1 ++ ": " ++ a

/-- **Entries** are told apart by their keys and their values. -/
theorem tells_entry : Tells IsEntry (Prod.map id Value.spelled) := by
  rintro ⟨k, v⟩ ⟨k', v'⟩ t u rest rest' ⟨a, atom, rfl⟩ ⟨b, atom', rfl⟩ hr hr' h
  simp only [String.toList_append, List.append_assoc] at h
  obtain ⟨rfl, values⟩ := quote_cancel h
  obtain ⟨same, ends⟩ := tells_atom atom atom' hr hr' (List.append_cancel_left values)
  exact ⟨congrArg (Prod.mk k) same, ends⟩

/-! ### Items between brackets -/

section Brackets

variable {α β : Type} {R : α → String → Prop} {sense : α → β}

/-- What follows an item between brackets: further items and the closing. -/
def following (depth : Nat) (closing : String) : List String → List Char
  | [] => (breakAt .indented depth).toList ++ closing.toList
  | t :: ts =>
    ',' :: ((breakAt .indented (depth + 1)).toList ++ (t.toList ++ following depth closing ts))

theorem bracket_cons (depth : Nat) (opening closing t : String) (ts : List String) :
    (bracket .indented depth opening closing (t :: ts)).toList =
      opening.toList ++ ((breakAt .indented (depth + 1)).toList ++
        (t.toList ++ following depth closing ts)) := by
  have items : ∀ (t : String) (ts : List String),
      (("," ++ breakAt .indented (depth + 1)).intercalate (t :: ts)).toList ++
          ((breakAt .indented depth).toList ++ closing.toList) =
        t.toList ++ following depth closing ts := by
    intro t ts
    induction ts generalizing t with
    | nil => rw [String.intercalate_singleton, following]
    | cons u ts ih =>
        rw [String.intercalate_cons_of_ne_nil (List.cons_ne_nil u ts), following, ← ih u]
        simp [String.toList_append]
  simp [bracket, String.toList_append, ← items]

theorem endsItem_following (depth : Nat) (closing : String) (ts : List String) (more : List Char) :
    EndsItem (following depth closing ts ++ more) := by
  cases ts with
  | nil =>
      rw [following, breakAt, String.toList_append]
      exact .cons (.inr rfl) _
  | cons t ts => exact .cons (.inl rfl) _

theorem Tells.following (h : Tells R sense) {depth : Nat} {closing : String} {xs ys : List α}
    {ts us : List String} (hx : List.Forall₂ R xs ts) (hy : List.Forall₂ R ys us)
    (he : following depth closing ts ++ rest = following depth closing us ++ rest') :
    xs.map sense = ys.map sense ∧ rest = rest' := by
  have comma : ∀ {t : String} {ts : List String} {more more' : List Char},
      Json.following depth closing [] ++ more ≠
        Json.following depth closing (t :: ts) ++ more' := by
    intro t ts more more' same
    rw [Json.following, breakAt, String.toList_append] at same
    exact absurd (List.cons.inj same).1 (by decide)
  induction hx generalizing ys us with
  | nil =>
      cases hy with
      | nil => exact ⟨rfl, List.append_cancel_left he⟩
      | cons => exact absurd he comma
  | cons first _ ih =>
      cases hy with
      | nil => exact absurd he.symm comma
      | cons first' others' =>
          simp only [Json.following, List.cons_append, List.append_assoc, List.cons.injEq,
            true_and] at he
          obtain ⟨same, more⟩ := h first first' (endsItem_following ..) (endsItem_following ..)
            (List.append_cancel_left he)
          obtain ⟨all, ends⟩ := ih others' more
          exact ⟨congrArg₂ List.cons same all, ends⟩

/-- Items between brackets with their text. -/
def IsBracket (R : α → String → Prop) (depth : Nat) (opening closing : String) (xs : List α)
    (t : String) : Prop :=
  ∃ ts, List.Forall₂ R xs ts ∧ t = bracket .indented depth opening closing ts

/-- **Items between brackets** are told apart one after the other. -/
theorem Tells.bracket (h : Tells R sense) {depth : Nat} {opening closing : String} {c : Char}
    (hc : closing.toList = [c]) (hn : c ≠ '\n') :
    Tells (IsBracket R depth opening closing) (List.map sense) := by
  have empty :
      (Json.bracket .indented depth opening closing []).toList = opening.toList ++ [c] := by
    simp [Json.bracket, String.toList_append, hc]
  -- after the opening comes the closing at once, or a line feed
  have feed : ∀ {t : String} {ts : List String} {more more' : List Char},
      (Json.bracket .indented depth opening closing []).toList ++ more ≠
        (Json.bracket .indented depth opening closing (t :: ts)).toList ++ more' := by
    intro t ts more more' same
    rw [empty, bracket_cons, List.append_assoc, List.append_assoc, breakAt,
      String.toList_append] at same
    exact hn (List.cons.inj (List.append_cancel_left same)).1
  rintro xs ys t u rest rest' ⟨ts, hx, rfl⟩ ⟨us, hy, rfl⟩ - - he
  cases hx with
  | nil =>
      cases hy with
      | nil => exact ⟨rfl, List.append_cancel_left he⟩
      | cons => exact absurd he feed
  | cons first others =>
      cases hy with
      | nil => exact absurd he.symm feed
      | cons first' others' =>
          simp only [bracket_cons, List.append_assoc] at he
          obtain ⟨same, more⟩ := h first first' (endsItem_following ..) (endsItem_following ..)
            (List.append_cancel_left (List.append_cancel_left he))
          obtain ⟨all, ends⟩ := h.following others others' more
          exact ⟨congrArg₂ List.cons same all, ends⟩

end Brackets

/-! ### Tables -/

theorem jsonAt_of_isTellable (h : v.IsTellable) (layout : Layout) (depth : Nat) :
    v.jsonAt layout depth = atom layout v := by
  cases v with
  | null | bool | int | float | text | symbol => simp only [Value.jsonAt]
  | _ => exact h.elim

theorem forall₂_of_jsonEntries {fields : List (String × Value)}
    (hf : ∀ e ∈ fields, e.2.IsTellable) {depth : Nat} {ts : List String}
    (h : Value.jsonEntries .indented depth (fields.map fun e => (.text e.1, e.2)) = .ok ts) :
    List.Forall₂ IsEntry fields ts := by
  induction fields generalizing ts with
  | nil =>
      cases h
      exact .nil
  | cons e fields ih =>
      obtain ⟨first, others⟩ := List.forall_mem_cons.mp hf
      rw [List.map_cons, Value.jsonEntries, jsonAt_of_isTellable first] at h
      obtain ⟨k, key, rest⟩ := bind_eq_ok h
      obtain ⟨a, text, rest⟩ := bind_eq_ok rest
      obtain ⟨us, texts, ok⟩ := bind_eq_ok rest
      cases key
      cases ok
      exact .cons ⟨a, ⟨first, text⟩, rfl⟩ (ih others texts)

/-- A table has the text of a mapping. -/
theorem isBracket_of_jsonAt {fields : List (String × Value)}
    (hf : ∀ e ∈ fields, e.2.IsTellable) {depth : Nat} {t : String}
    (h : (Value.ofFields fields).jsonAt .indented depth = .ok t) :
    IsBracket IsEntry depth "\x7b" "\x7d" fields t := by
  rw [Value.ofFields, Value.jsonAt] at h
  obtain ⟨ts, texts, rfl⟩ := map_eq_ok h
  exact ⟨ts, forall₂_of_jsonEntries hf texts, rfl⟩

theorem forall₂_of_jsonItems {tables : List (List (String × Value))}
    (ht : ∀ fields ∈ tables, ∀ e ∈ fields, e.2.IsTellable) {depth : Nat} {ts : List String}
    (h : Value.jsonItems .indented depth (tables.map Value.ofFields) = .ok ts) :
    List.Forall₂ (IsBracket IsEntry depth "\x7b" "\x7d") tables ts := by
  induction tables generalizing ts with
  | nil =>
      cases h
      exact .nil
  | cons fields tables ih =>
      obtain ⟨first, others⟩ := List.forall_mem_cons.mp ht
      rw [List.map_cons, Value.jsonItems] at h
      obtain ⟨t, text, rest⟩ := bind_eq_ok h
      obtain ⟨us, texts, ok⟩ := bind_eq_ok rest
      cases ok
      exact .cons (isBracket_of_jsonAt first text) (ih others texts)

/-- **Tables with one text are spelled alike**: there are as many of them, with the same keys in the
same order, and the same values but for symbols and their spellings. -/
theorem spelled_of_json {tables tables' : List (List (String × Value))}
    (ht : ∀ fields ∈ tables, ∀ e ∈ fields, e.2.IsTellable)
    (ht' : ∀ fields ∈ tables', ∀ e ∈ fields, e.2.IsTellable) {t : String}
    (h : (Value.list (tables.map Value.ofFields)).json .indented = .ok t)
    (h' : (Value.list (tables'.map Value.ofFields)).json .indented = .ok t) :
    tables.map (List.map (Prod.map id Value.spelled)) =
      tables'.map (List.map (Prod.map id Value.spelled)) := by
  have listed : ∀ {tables : List (List (String × Value))},
      (∀ fields ∈ tables, ∀ e ∈ fields, e.2.IsTellable) →
      (Value.list (tables.map Value.ofFields)).json .indented = .ok t →
      IsBracket (IsBracket IsEntry 1 "\x7b" "\x7d") 0 "[" "]" tables t := by
    intro tables ht h
    rw [Value.json, Value.jsonAt] at h
    obtain ⟨ts, texts, rfl⟩ := map_eq_ok h
    exact ⟨ts, forall₂_of_jsonItems ht texts, rfl⟩
  have mapping : Tells (IsBracket IsEntry 1 "\x7b" "\x7d") _ :=
    tells_entry.bracket (c := '\x7d') rfl (by decide)
  have list : Tells (IsBracket (IsBracket IsEntry 1 "\x7b" "\x7d") 0 "[" "]") _ :=
    mapping.bracket (c := ']') rfl (by decide)
  exact (list (listed ht h) (listed ht' h') (.cons (.inr rfl) []) (.cons (.inr rfl) []) rfl).1

end Json

end Postprocessor
