/-
What is noted on the way. A listener may note something at each call before it does what it does
otherwise. Notes change nothing of a drive, so what holds of them holds of the calls themselves:
where the drive stood at each of them, and on which chain. Each way of putting computations together
has one law that says what the whole notes in terms of what its parts note.
-/

import StreamPath.Proofs.Progress

namespace StreamPath

variable {σ τ α β : Type}

/-! ### Notes -/

namespace Progress

/-- The same place, with something more beside the state of the handler. -/
def also (progress : Progress σ) (more : τ) : Progress (σ × τ) :=
  ⟨progress.scan, progress.stage.context, progress.stage.state, more⟩

/-- The same place, without what stands beside the state of the handler. -/
def alone (progress : Progress (σ × τ)) : Progress σ :=
  ⟨progress.scan, progress.stage.context, progress.stage.state.1⟩

end Progress

/-- A call in front of which something is noted. -/
def Drive.noting (note : Progress σ → τ) (call : Drive σ Unit) : Drive (σ × List τ) Unit :=
  fun progress =>
    let (result, after) := call progress.alone
    (result, after.also (progress.stage.state.2 ++ [note progress.alone]))

/-- The listener that notes something at each call before it is made. -/
def Listener.noting (listener : Listener σ) (begins ends : Progress σ → τ) :
    Listener (σ × List τ) where
  node := Drive.noting begins listener.node
  endNode := Drive.noting ends listener.endNode

/-! ### What is noted -/

/-- Whether a computation does the same with notes as without them from a place on, and ends as it
is to end: with a value in one way and with an error in another, each time with what is noted. -/
def Drive.Notes (plain : Drive σ α) (noting : Drive (σ × List τ) α) (start : Progress σ)
    (reached : α → List τ → Progress σ → Prop) (stopped : List τ → Progress σ → Prop) : Prop :=
  ∃ notes : List τ,
    (∀ earlier, noting (start.also earlier) =
      ((plain start).1, (plain start).2.also (earlier ++ notes))) ∧
    (∀ value after, plain start = (.ok value, after) → reached value notes after) ∧
    ∀ error after, plain start = (.error error, after) → stopped notes after

namespace Drive.Notes

variable {plain : Drive σ α} {noting : Drive (σ × List τ) α} {start : Progress σ}
  {reached reached' : α → List τ → Progress σ → Prop}
  {stopped stopped' : List τ → Progress σ → Prop}

/-- A computation that calls nobody and succeeds. -/
theorem of_ok {value : α} {after : Progress σ} (ran : plain start = (.ok value, after))
    (same : ∀ earlier : List τ, noting (start.also earlier) = (.ok value, after.also earlier))
    (reaches : reached value [] after) : Notes plain noting start reached stopped := by
  refine ⟨[], fun earlier => ?_, fun other there ends => ?_, fun error there ends => ?_⟩
  · rw [same, ran, List.append_nil]
  · obtain ⟨equal, rfl⟩ := Prod.mk.inj (ran.symm.trans ends)
    exact Except.ok.inj equal ▸ reaches
  · cases ran.symm.trans ends

/-- A computation that calls nobody and fails. -/
theorem of_error {error : StreamError} {after : Progress σ}
    (ran : plain start = (.error error, after))
    (same : ∀ earlier : List τ, noting (start.also earlier) = (.error error, after.also earlier))
    (stops : stopped [] after) : Notes plain noting start reached stopped := by
  refine ⟨[], fun earlier => ?_, fun value there ends => ?_, fun other there ends => ?_⟩
  · rw [same, ran, List.append_nil]
  · cases ran.symm.trans ends
  · exact (Prod.mk.inj (ran.symm.trans ends)).2 ▸ stops

/-- What is known of the notes may be weakened. -/
theorem mono (notes : Notes plain noting start reached stopped)
    (reaches : ∀ value noted after, reached value noted after → reached' value noted after)
    (stops : ∀ noted after, stopped noted after → stopped' noted after) :
    Notes plain noting start reached' stopped' := by
  obtain ⟨noted, same, succeeds, fails⟩ := notes
  exact ⟨noted, same, fun value after ran => reaches value noted after (succeeds value after ran),
    fun error after ran => stops noted after (fails error after ran)⟩

/-- One computation notes what it notes, and the next one notes the rest. -/
theorem bind {next : α → Drive σ β} {next' : α → Drive (σ × List τ) β}
    {final : β → List τ → Progress σ → Prop}
    (one : Notes plain noting start reached stopped)
    (stops : ∀ noted after, stopped noted after → stopped' noted after)
    (two : ∀ value noted middle, reached value noted middle →
      Notes (next value) (next' value) middle
        (fun last more after => final last (noted ++ more) after)
        fun more after => stopped' (noted ++ more) after) :
    Notes (plain >>= next) (noting >>= next') start final stopped' := by
  obtain ⟨noted, same, succeeds, fails⟩ := one
  unfold Notes
  simp only [bind_apply, same]
  rcases ran : plain start with ⟨error | value, middle⟩
  · refine ⟨noted, fun _ => rfl, fun value after ends => ?_, fun other after ends => ?_⟩
    · cases ends
    · exact (Prod.mk.inj ends).2 ▸ stops noted middle (fails error middle ran)
  · obtain ⟨more, sameRest, succeedsRest, failsRest⟩ :=
      two value noted middle (succeeds value middle ran)
    refine ⟨noted ++ more, fun earlier => ?_, succeedsRest, failsRest⟩
    rw [← List.append_assoc]
    exact sameRest (earlier ++ noted)

/-! ### The parts of a drive -/

section Parts

variable {listener : Listener σ} {begins ends : Progress σ → τ} {options : WalkOptions}
  {reached : Unit → List τ → Progress σ → Prop}

/-- Entering a node notes its beginning, whatever the handler answers. -/
theorem enter {make : Nat → Node}
    (reaches : ∀ after, listener.node (start.entered (make start.scan.serial)) = (.ok (), after) →
      reached () [begins (start.entered (make start.scan.serial))] after)
    (stops : ∀ error after,
      listener.node (start.entered (make start.scan.serial)) = (.error error, after) →
        stopped [begins (start.entered (make start.scan.serial))] after) :
    Notes (Drive.enter listener make) (Drive.enter (listener.noting begins ends) make) start reached
      stopped :=
  ⟨[begins (start.entered (make start.scan.serial))], fun _ => rfl, fun _ => reaches, stops⟩

/-- Leaving a node notes its end before the handler hears of it. -/
theorem leave
    (reaches : ∀ after, listener.endNode start = (.ok (), after) →
      reached () [ends start] after.left)
    (stops : ∀ error after, listener.endNode start = (.error error, after) →
      stopped [ends start] after) :
    Notes (Drive.leave listener) (Drive.leave (listener.noting begins ends)) start
      reached stopped := by
  have noted : ∀ earlier, (listener.noting begins ends).endNode (start.also earlier) =
    ((listener.endNode start).1, (listener.endNode start).2.also (earlier ++ [ends start])) :=
      fun earlier => rfl
  unfold Notes
  rcases ran : listener.endNode start with ⟨error | ⟨⟩, after⟩
  · rw [ran] at noted
    rw [leave_of_error ran]
    refine ⟨[ends start], fun earlier => leave_of_error (noted earlier), fun value there ends => ?_,
      fun other there ends => ?_⟩
    · cases ends
    · exact (Prod.mk.inj ends).2 ▸ stops error after ran
  · rw [ran] at noted
    rw [leave_of_ok ran]
    refine ⟨[ends start], fun earlier => leave_of_ok (noted earlier), fun value there ends => ?_,
      fun other there ends => ?_⟩
    · exact (Prod.mk.inj ends).2 ▸ reaches after ran
    · cases ends

/-- Gathered text notes what a node of its own notes, if it is kept. -/
theorem flush
    (kept : Scan.keepsText options start.pending = true →
      let make := fun serial => Node.text serial (String.ofList start.pending)
      Notes (Drive.leaf listener make) (Drive.leaf (listener.noting begins ends) make) start.cleared
        reached stopped)
    (omitted : Scan.keepsText options start.pending = false → reached () [] start.cleared) :
    Notes (Drive.flush listener options) (Drive.flush (listener.noting begins ends) options) start
      reached stopped := by
  have noted : ∀ earlier : List τ, Drive.flush (listener.noting begins ends) options
      (start.also earlier) = _ := fun earlier => flush_apply _ _ _
  cases keeps : Scan.keepsText options start.pending with
  | true =>
    obtain ⟨notes, same, succeeds, fails⟩ := kept keeps
    refine ⟨notes, fun earlier => ?_, ?_, ?_⟩
    · rw [noted, flush_apply, if_pos keeps]
      exact (if_pos keeps).trans (same earlier)
    · rw [flush_apply, if_pos keeps]
      exact succeeds
    · rw [flush_apply, if_pos keeps]
      exact fails
  | false =>
    have none : ¬Scan.keepsText options start.pending = true := Bool.eq_false_iff.mp keeps
    refine of_ok ?_ (fun earlier => ?_) (omitted keeps)
    · rw [flush_apply, if_neg none]
    · rw [noted]
      exact if_neg none

/-- An element that begins notes what entering its node notes. -/
theorem beginElement {position : Nat} {body : List Char}
    (made : ∀ node, start.scan.elementOf position body = .ok node →
      Notes (Drive.enter listener fun _ => node)
        (Drive.enter (listener.noting begins ends) fun _ => node)
        (start.inside node) reached stopped)
    (refused : ∀ error, start.scan.elementOf position body = .error error → stopped [] start) :
    Notes (Drive.beginElement listener position body)
      (Drive.beginElement (listener.noting begins ends) position body) start reached stopped := by
  cases element : start.scan.elementOf position body with
  | error error =>
    exact of_error (beginElement_of_error element) (fun _ => beginElement_of_error element)
      (refused error element)
  | ok node =>
    obtain ⟨notes, same, succeeds, fails⟩ := made node element
    have plain : Drive.beginElement listener position body start =
      Drive.enter listener (fun _ => node) (start.inside node) := beginElement_of_ok element
    have noted : ∀ earlier, Drive.beginElement (listener.noting begins ends) position body
        (start.also earlier) = Drive.enter (listener.noting begins ends) (fun _ => node)
          ((start.inside node).also earlier) := fun _ => beginElement_of_ok element
    refine ⟨notes, fun earlier => ?_, plain ▸ succeeds, plain ▸ fails⟩
    rw [plain, noted, same]

end Parts

end Drive.Notes

end StreamPath
