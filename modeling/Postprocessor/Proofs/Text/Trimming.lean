import Postprocessor.Text.Blank
import Postprocessor.Text.Parts

/-!
# Proofs — trimming and joining

A text is *trim* when no blank stands at its two ends, and *solid* when it holds no blank at all.
Words are trimmed when they are put into a line, and the line is trimmed again when it is joined;
the second time changes nothing.

* `takeWhile_eq_iff`: all characters of a kind at the start of a text.
* `trim_eq_self`, `isTrim_trim`: `trim` keeps the trim texts and yields only such.
* `isTrim_intercalate`: words that are trim and not empty, joined by spaces, are trim.
* `trim_squeeze_intercalate`: solid words, joined, squeezed and trimmed, are those of them that are
  not empty, with single spaces between them.
* `partsAt_intercalate`: a joined text, cut where it was joined, gives the words back.
-/

namespace Postprocessor.Text

/-! ### Runs of characters -/

/-- All characters of a kind at the start of a text. -/
theorem takeWhile_eq_iff {front rest : List Char} (kind : Char → Bool) (cs : List Char) :
    cs.takeWhile kind = front ∧ cs.dropWhile kind = rest ↔
      cs = front ++ rest ∧ (∀ c ∈ front, kind c = true) ∧ ∀ c ∈ rest.head?, kind c = false := by
  constructor
  · rintro ⟨rfl, rfl⟩
    refine ⟨List.takeWhile_append_dropWhile.symm, List.all_eq_true.mp List.all_takeWhile, ?_⟩
    intro c hc
    have key := List.head?_dropWhile_not kind cs
    rwa [hc] at key
  · rintro ⟨rfl, inside, stop⟩
    rw [List.takeWhile_append_of_pos inside, List.dropWhile_append_of_pos inside]
    cases rest with
    | nil => simp
    | cons c rest =>
        have hc : ¬ kind c = true := by simpa using stop c rfl
        rw [List.takeWhile_cons_of_neg hc, List.dropWhile_cons_of_neg hc, List.append_nil]
        exact ⟨rfl, rfl⟩

/-! ### Trim and solid texts -/

/-- No blank stands at the two ends of the text. -/
def IsTrim (cs : List Char) : Prop :=
  (∀ c ∈ cs.head?, isBlank c = false) ∧ ∀ c ∈ cs.getLast?, isBlank c = false

/-- No blank stands anywhere in the text. -/
def IsSolid (cs : List Char) : Prop := ∀ c ∈ cs, isBlank c = false

instance (cs : List Char) : Decidable (IsSolid cs) := List.decidableBAll _ cs

theorem IsSolid.isTrim {cs : List Char} (h : IsSolid cs) : IsTrim cs :=
  ⟨fun c hc => h c (List.mem_of_mem_head? hc), fun c hc => h c (List.mem_of_getLast? hc)⟩

theorem trimLeft_eq_self {cs : List Char} (h : ∀ c ∈ cs.head?, isBlank c = false) :
    trimLeft cs = cs := by
  cases cs with
  | nil => rfl
  | cons c rest => simp [trimLeft, h c rfl]

theorem trimRight_eq_self {cs : List Char} (h : ∀ c ∈ cs.getLast?, isBlank c = false) :
    trimRight cs = cs := by
  have key : trimLeft cs.reverse = cs.reverse :=
    trimLeft_eq_self fun c hc => h c (by rwa [List.getLast?_eq_head?_reverse])
  rw [trimRight, ← trimLeft, key, List.reverse_reverse]

theorem trim_eq_self {cs : List Char} (h : IsTrim cs) : trim cs = cs := by
  rw [trim, trimLeft_eq_self h.1, trimRight_eq_self h.2]

theorem head_trimLeft (cs : List Char) : ∀ c ∈ (trimLeft cs).head?, isBlank c = false :=
  ((takeWhile_eq_iff isBlank cs).mp ⟨rfl, rfl⟩).2.2

theorem last_trimRight (cs : List Char) : ∀ c ∈ (trimRight cs).getLast?, isBlank c = false := by
  intro c hc
  rw [trimRight, List.getLast?_reverse] at hc
  exact head_trimLeft cs.reverse c hc

theorem trimRight_prefix (cs : List Char) : trimRight cs <+: cs := by
  have h : cs.reverse.dropWhile isBlank <:+ cs.reverse := List.dropWhile_suffix isBlank
  simpa [trimRight] using List.reverse_prefix.mpr h

/-- What `trim` yields is trim. -/
theorem isTrim_trim (cs : List Char) : IsTrim (trim cs) := by
  refine ⟨fun c hc => ?_, last_trimRight (trimLeft cs)⟩
  obtain ⟨blanks, hb⟩ := trimRight_prefix (trimLeft cs)
  refine head_trimLeft cs c ?_
  rw [← hb, List.head?_append]
  rw [trim] at hc
  rw [hc, Option.some_or]
  rfl

theorem trim_trim (cs : List Char) : trim (trim cs) = trim cs := trim_eq_self (isTrim_trim cs)

/-- Blanks around a trim text are what `trim` takes away. -/
theorem trim_append_blanks {lead cs tail : List Char} (hl : ∀ c ∈ lead, isBlank c = true)
    (ht : ∀ c ∈ tail, isBlank c = true) (h : IsTrim cs) : trim (lead ++ cs ++ tail) = cs := by
  have left : trimLeft (lead ++ (cs ++ tail)) = trimLeft (cs ++ tail) :=
    List.dropWhile_append_of_pos hl
  rw [trim, List.append_assoc, left]
  cases cs with
  | nil =>
      have dropped : trimLeft (tail ++ []) = [] := List.dropWhile_append_of_pos ht
      rw [List.append_nil] at dropped
      rw [List.nil_append, dropped]
      rfl
  | cons c rest =>
      have kept : trimLeft (c :: rest ++ tail) = c :: rest ++ tail :=
        trimLeft_eq_self fun d hd => h.1 d hd
      have right : trimRight (c :: rest ++ tail) = trimRight (c :: rest) := by
        rw [trimRight, List.reverse_append, List.dropWhile_append_of_pos fun d hd =>
          ht d (List.mem_reverse.mp hd), ← trimRight]
      rw [kept, right, trimRight_eq_self h.2]

/-! ### The first character -/

/-- The first character of a text that is no blank. -/
def lead? (cs : List Char) : Option Char := cs.find? fun c => !isBlank c

theorem lead?_append (us vs : List Char) : lead? (us ++ vs) = (lead? us).or (lead? vs) :=
  List.find?_append

theorem lead?_of_blanks {cs : List Char} (h : ∀ c ∈ cs, isBlank c = true) : lead? cs = none := by
  rw [lead?, List.find?_eq_none]
  intro c hc
  simp [h c hc]

/-- A trim text starts with that character. -/
theorem lead?_of_isTrim {cs : List Char} (h : IsTrim cs) : lead? cs = cs.head? := by
  cases cs with
  | nil => rfl
  | cons c rest => simp [lead?, h.1 c rfl]

theorem lead?_trimLeft (cs : List Char) : lead? (trimLeft cs) = lead? cs := by
  have split : cs = cs.takeWhile isBlank ++ trimLeft cs := List.takeWhile_append_dropWhile.symm
  have blanks : ∀ c ∈ cs.takeWhile isBlank, isBlank c = true :=
    List.all_eq_true.mp List.all_takeWhile
  conv => rhs; rw [split]
  rw [lead?_append, lead?_of_blanks blanks, Option.none_or]

theorem lead?_trimRight (cs : List Char) : lead? (trimRight cs) = lead? cs := by
  have split : cs = trimRight cs ++ (cs.reverse.takeWhile isBlank).reverse := by
    rw [trimRight, ← List.reverse_append, List.takeWhile_append_dropWhile, List.reverse_reverse]
  have blanks : ∀ c ∈ (cs.reverse.takeWhile isBlank).reverse, isBlank c = true :=
    fun c hc => List.all_eq_true.mp List.all_takeWhile c (List.mem_reverse.mp hc)
  conv => rhs; rw [split]
  rw [lead?_append, lead?_of_blanks blanks, Option.or_none]

/-- Trimming does not change it. -/
theorem lead?_trim (cs : List Char) : lead? (trim cs) = lead? cs := by
  rw [trim, lead?_trimRight, lead?_trimLeft]

theorem lead?_squeezeFrom (inside : Bool) (cs : List Char) :
    lead? (squeezeFrom inside cs) = lead? cs := by
  induction cs generalizing inside with
  | nil => rfl
  | cons c rest ih =>
      have space : isBlank ' ' = true := by decide
      rw [squeezeFrom]
      by_cases h : isBlank c = true
      · cases inside <;> simp [lead?, h, space] <;> exact ih true
      · simp [lead?, h]

/-! ### Joined texts -/

theorem isTrim_append {a b m : List Char} (ha : IsTrim a) (hb : IsTrim b) (ha' : a ≠ [])
    (hb' : b ≠ []) : IsTrim (a ++ m ++ b) := by
  refine ⟨fun c hc => ha.1 c ?_, fun c hc => hb.2 c ?_⟩
  · obtain ⟨x, xs, rfl⟩ := List.exists_cons_of_ne_nil ha'
    exact hc
  · rwa [List.getLast?_append, List.getLast?_eq_some_getLast hb', Option.some_or,
      ← List.getLast?_eq_some_getLast hb'] at hc

theorem intercalate_ne_nil {m : List Char} {ws : List (List Char)} (hne : ws ≠ [])
    (h : ∀ w ∈ ws, w ≠ []) : m.intercalate ws ≠ [] := by
  cases ws with
  | nil => exact absurd rfl hne
  | cons w rest =>
      have hw : w ≠ [] := h w (List.mem_cons_self ..)
      cases rest with
      | nil => simpa [List.intercalate] using hw
      | cons w' rest => simp [List.intercalate_cons_cons, hw]

/-- Words that are trim and not empty, joined, are trim. -/
theorem isTrim_intercalate {m : List Char} {ws : List (List Char)}
    (h : ∀ w ∈ ws, IsTrim w ∧ w ≠ []) : IsTrim (m.intercalate ws) := by
  induction ws with
  | nil => simp [IsTrim, List.intercalate]
  | cons w rest ih =>
      obtain ⟨hw, hw'⟩ := h w (List.mem_cons_self ..)
      have hrest : ∀ v ∈ rest, IsTrim v ∧ v ≠ [] := fun v hv => h v (List.mem_cons_of_mem _ hv)
      cases rest with
      | nil => simpa [List.intercalate] using hw
      | cons w' rest =>
          rw [List.intercalate_cons_cons]
          exact isTrim_append hw (ih hrest) hw'
            (intercalate_ne_nil (List.cons_ne_nil _ _) fun v hv => (hrest v hv).2)

/-! ### Squeezed texts -/

theorem squeezeFrom_append {cs : List Char} (h : IsSolid cs) (hne : cs ≠ []) (inside : Bool)
    (rest : List Char) : squeezeFrom inside (cs ++ rest) = cs ++ squeezeFrom false rest := by
  induction cs generalizing inside with
  | nil => exact absurd rfl hne
  | cons c cs ih =>
      have hc : isBlank c = false := h c (List.mem_cons_self ..)
      cases cs with
      | nil => simp [squeezeFrom, hc]
      | cons d cs =>
          have key := ih (fun e he => h e (List.mem_cons_of_mem _ he)) (List.cons_ne_nil _ _) false
          simpa [squeezeFrom, hc] using key

theorem squeezeFrom_solid {cs : List Char} (h : IsSolid cs) (inside : Bool) :
    squeezeFrom inside cs = cs := by
  cases cs with
  | nil => rfl
  | cons c cs =>
      have key := squeezeFrom_append h (List.cons_ne_nil _ _) inside []
      simpa [squeezeFrom] using key

theorem isBlank_space : isBlank ' ' = true := by decide

/-- The words that are not empty. -/
abbrev nonempty (ws : List (List Char)) : List (List Char) := ws.filter (!·.isEmpty)

/-- Solid words, joined and squeezed after a blank, are those that are not empty, joined, with at
most one space after them. -/
theorem squeezeFrom_intercalate {ws : List (List Char)} (h : ∀ w ∈ ws, IsSolid w) :
    ∃ tail, (tail = [] ∨ tail = [' '] ∧ nonempty ws ≠ []) ∧
      squeezeFrom true ([' '].intercalate ws) = [' '].intercalate (nonempty ws) ++ tail := by
  induction ws with
  | nil => exact ⟨[], .inl rfl, rfl⟩
  | cons w rest ih =>
      have hw : IsSolid w := h w (List.mem_cons_self ..)
      obtain ⟨tail, htail, key⟩ := ih fun v hv => h v (List.mem_cons_of_mem _ hv)
      cases rest with
      | nil =>
          refine ⟨[], .inl rfl, ?_⟩
          cases w <;> simp [List.intercalate, squeezeFrom_solid hw, nonempty]
      | cons w' rest =>
          rw [List.intercalate_cons_cons]
          cases hcase : w with
          | nil =>
              refine ⟨tail, by simpa [nonempty] using htail, ?_⟩
              simpa [squeezeFrom, isBlank_space, nonempty] using key
          | cons c cs =>
              subst hcase
              have hstep : squeezeFrom true (c :: cs ++ [' '] ++ [' '].intercalate (w' :: rest))
                  = c :: cs ++ ' ' :: squeezeFrom true ([' '].intercalate (w' :: rest)) := by
                rw [List.append_assoc, squeezeFrom_append hw (List.cons_ne_nil _ _)]
                simp [squeezeFrom, isBlank_space]
              rw [hstep, key]
              rcases hne : nonempty (w' :: rest) with _ | ⟨v, vs⟩
              · -- nothing follows but the space after `w`
                have htail' : tail = [] := by simpa [hne] using htail
                refine ⟨[' '], .inr ⟨rfl, by simp [nonempty]⟩, ?_⟩
                have : nonempty ((c :: cs) :: w' :: rest) = [c :: cs] := by
                  simpa [nonempty] using hne
                simp [this, htail', List.intercalate]
              · refine ⟨tail, htail.imp id fun ht => ⟨ht.1, by simp [nonempty]⟩, ?_⟩
                have : nonempty ((c :: cs) :: w' :: rest) = (c :: cs) :: v :: vs := by
                  simpa [nonempty] using hne
                rw [this, List.intercalate_cons_cons]
                simp

/-- **Joining solid words.**  Joined by spaces, squeezed and trimmed, they are those that are not
empty, with single spaces between them. -/
theorem trim_squeeze_intercalate {ws : List (List Char)} (h : ∀ w ∈ ws, IsSolid w) :
    trim (squeeze ([' '].intercalate ws)) = [' '].intercalate (nonempty ws) := by
  have trimmed : IsTrim ([' '].intercalate (nonempty ws)) := by
    refine isTrim_intercalate fun w hw => ?_
    obtain ⟨hmem, hne⟩ := List.mem_filter.mp hw
    exact ⟨(h w hmem).isTrim, by simpa using hne⟩
  obtain ⟨tail, htail, key⟩ := squeezeFrom_intercalate h
  have blanks : ∀ c ∈ tail, isBlank c = true := by
    rcases htail with rfl | ⟨rfl, -⟩ <;> simp [isBlank_space]
  have spread : ∃ lead, (∀ c ∈ lead, isBlank c = true) ∧
      squeeze ([' '].intercalate ws) = lead ++ [' '].intercalate (nonempty ws) ++ tail := by
    rw [squeeze]
    -- one space stands before the words if the first of them is empty
    rcases ws with _ | ⟨_ | ⟨c, cs⟩, rest⟩
    · exact ⟨[], by simp, by simpa [squeezeFrom, List.intercalate] using key⟩
    · cases rest with
      | nil => exact ⟨[], by simp, by simpa [squeezeFrom, List.intercalate] using key⟩
      | cons w' rest =>
          refine ⟨[' '], by simp [isBlank_space], ?_⟩
          rw [List.intercalate_cons_cons] at key ⊢
          simpa [squeezeFrom, isBlank_space] using key
    · have hc : isBlank c = false := h _ (List.mem_cons_self ..) c (List.mem_cons_self ..)
      refine ⟨[], by simp, ?_⟩
      rw [List.nil_append, ← key]
      cases rest <;> simp [List.intercalate, squeezeFrom, hc]
  obtain ⟨lead, hlead, e⟩ := spread
  rw [e, trim_append_blanks hlead blanks trimmed]

/-! ### Cutting a joined text -/

theorem partsAt_append {between : Char → Bool} {w : List Char}
    (h : ∀ c ∈ w, between c = false) {rest part : List Char} {parts : List (List Char)}
    (hrest : partsAt between rest = part :: parts) :
    partsAt between (w ++ rest) = (w ++ part) :: parts := by
  induction w with
  | nil => exact hrest
  | cons c w ih =>
      have hc : between c = false := h c (List.mem_cons_self ..)
      rw [List.cons_append, partsAt, ih fun d hd => h d (List.mem_cons_of_mem _ hd)]
      simp [hc]

/-- A joined text, cut where it was joined, gives the words back. -/
theorem partsAt_intercalate {m : Char} {ws : List (List Char)} (hne : ws ≠ [])
    (h : ∀ w ∈ ws, m ∉ w) : partsAt (· == m) ([m].intercalate ws) = ws := by
  induction ws with
  | nil => exact absurd rfl hne
  | cons w rest ih =>
      have hw : ∀ c ∈ w, (c == m) = false := by
        intro c hc
        have : c ≠ m := fun e => h w (List.mem_cons_self ..) (e ▸ hc)
        simpa using this
      cases rest with
      | nil =>
          have key : partsAt (· == m) (w ++ []) = [w ++ []] := partsAt_append hw rfl
          simpa [List.intercalate] using key
      | cons w' rest =>
          have tail := ih (List.cons_ne_nil _ _) fun v hv => h v (List.mem_cons_of_mem _ hv)
          have after : partsAt (· == m) (m :: [m].intercalate (w' :: rest))
              = [] :: w' :: rest := by
            rw [partsAt, tail]
            simp
          have key := partsAt_append hw after
          simpa [List.intercalate_cons_cons] using key

end Postprocessor.Text
