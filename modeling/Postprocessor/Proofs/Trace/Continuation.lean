import Postprocessor.Proofs.Trace.Blocks

/-!
# Proofs — continued traces

A trace may be continued by another one that starts with a marker line.  The block that is open at
the end of the first trace is closed by that line as it is by the end, whatever the break between
the two runs together with.

* `Record.later`: a record further down in the sequence.
* `Reading.after`: a reading that goes on after records that were read before; `step_after`,
  `close_after` and `foldl_step_after` say that these have no influence on what is read.
* `exists_parts_of_lines`: the first line of a text is its first part.
* `records_append`: the records of a continued trace.
-/

namespace Postprocessor.Trace
open Text

/-- The record with `k` more records before it. -/
def Record.later (k : Nat) (r : Record) : Record := { r with index := r.index + k }

namespace Reading

/-- What is read, after records that were read before. -/
def after (before : Array Record) (r : Reading) : Reading :=
  ⟨before ++ r.done.map (Record.later before.size), r.opened⟩

variable (before : Array Record) (r : Reading)

theorem close_after : (r.after before).close = r.close.after before := by
  obtain ⟨done, _ | ⟨name, params⟩⟩ := r
  · rfl
  · simp [after, close, Record.later, Nat.add_comm]

theorem step_after (line : List Char) :
    (r.after before).step line = (r.step line).after before := by
  rw [step, step]
  cases markerName? line with
  | none => rfl
  | some identifier =>
      simp only
      rw [close_after]
      rfl

theorem foldl_step_after (ls : List (List Char)) :
    ls.foldl step (r.after before) = (ls.foldl step r).after before := by
  induction ls generalizing r with
  | nil => rfl
  | cons line ls ih => rw [List.foldl_cons, List.foldl_cons, step_after, ih]

/-- A marker line goes on after the records of the blocks before it. -/
theorem step_of_opensBlock {line : List Char} (h : OpensBlock line) :
    r.step line = (start.step line).after r.close.done := by
  obtain ⟨identifier, name⟩ := Option.isSome_iff_exists.mp (isSome_markerName?_iff.mpr h)
  rw [step, step, name]
  simp [after, start, close]

end Reading

end Postprocessor.Trace

namespace Postprocessor.Text

/-- Lines that were done before stand before the others. -/
theorem linesFrom_append (done before : List (List Char)) (line cs : List Char) :
    linesFrom (done ++ before) line cs = before.reverse ++ linesFrom done line cs := by
  fun_induction linesFrom done line cs with
  | case1 done line => cases line <;> simp [linesFrom]
  | case2 done line rest ih => exact ih
  | case3 done line c rest pair hc ih => rwa [linesFrom.eq_3 _ _ _ _ pair, if_pos hc]
  | case4 done line c rest pair hc ih => rwa [linesFrom.eq_3 _ _ _ _ pair, if_neg hc]

/-- A line that is done is the first one. -/
theorem head?_linesFrom (first line cs : List Char) :
    (linesFrom [first] line cs).head? = some first := by
  rw [← List.nil_append [first], linesFrom_append]
  rfl

/-- The lines from the middle of a text on start with the part that is being read. -/
theorem exists_parts_of_linesFrom {line cs first : List Char}
    (hl : ∀ c ∈ line, isBreak c = false) (hf : first ∈ (linesFrom [] line cs).head?) :
    ∃ rest, partsAt isBreak (line.reverse ++ cs) = first :: rest := by
  have read {line : List Char} (hl : ∀ c ∈ line, isBreak c = false) :
      partsAt isBreak line.reverse = [line.reverse] :=
    partsAt_eq_singleton fun c hc => hl c (List.mem_reverse.mp hc)
  have cut {line : List Char} (hl : ∀ c ∈ line, isBreak c = false) {c : Char} (cs : List Char)
      (hc : isBreak c = true) : ∃ rest,
      partsAt isBreak (line.reverse ++ c :: cs) = line.reverse :: rest :=
    ⟨_, (partsAt_append_cons _ _ hc).trans (by rw [read hl, List.singleton_append])⟩
  generalize hd : ([] : List (List Char)) = done at hf
  fun_induction linesFrom done line cs with subst hd
  | case1 done line =>
      cases line with
      | nil => cases hf
      | cons c line =>
          obtain rfl : (c :: line).reverse = first := Option.some.inj hf
          exact ⟨[], by rw [List.append_nil, read hl]⟩
  | case2 done line rest =>
      rw [head?_linesFrom, Option.mem_some] at hf
      exact hf ▸ cut hl _ (by decide)
  | case3 done line c rest pair hc =>
      rw [head?_linesFrom, Option.mem_some] at hf
      exact hf ▸ cut hl _ hc
  | case4 done line c rest pair hc ih =>
      have hl' : ∀ d ∈ c :: line, isBreak d = false :=
        List.forall_mem_cons.mpr ⟨by simpa using hc, hl⟩
      have whole := ih hl' rfl hf
      rwa [List.reverse_cons, List.append_assoc] at whole

/-- **The first line** of a text is its first part. -/
theorem exists_parts_of_lines {cs first : List Char} (h : first ∈ (lines cs).head?) :
    ∃ rest, partsAt isBreak cs = first :: rest := exists_parts_of_linesFrom (by simp) h

end Postprocessor.Text

namespace Postprocessor.Trace
open Text

/-- **The records of a continued trace** are those of the first one, and after them those of the
second one, whose places follow on. -/
theorem records_append (first : String) {second : String}
    (h : ∃ line ∈ (lines second.toList).head?, OpensBlock line) :
    (records (first ++ "\n" ++ second)).toList = (records first).toList ++
      (records second).toList.map (Record.later (records first).size) := by
  obtain ⟨line, head, opens⟩ := h
  obtain ⟨rest, parts⟩ := exists_parts_of_lines head
  have seam : (first ++ "\n" ++ second).toList = first.toList ++ '\n' :: second.toList := by
    simp
  have continued (r : Reading) : r.readText second.toList =
      (Reading.start.readText second.toList).after r.close.done := by
    rw [Reading.readText, Reading.readText, parts, List.foldl_cons, List.foldl_cons,
      r.step_of_opensBlock opens]
    exact Reading.foldl_step_after ..
  rw [records_eq, records_eq, records_eq, seam,
    Reading.readText_append _ _ fun _ => ⟨'\n', rfl, by decide⟩,
    Reading.readText_cons_of_isBlank _ (by decide), continued, Reading.close_after]
  simp [Reading.after]

end Postprocessor.Trace
