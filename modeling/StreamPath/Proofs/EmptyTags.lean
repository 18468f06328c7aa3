/-
Empty tags. A tag that is a whole element may be written as a tag that begins the element and one
that ends it right behind. A drive then gathers no text between the two, and so finds nothing to
make a node of when the second one comes; all that is left of it is that the element ends. This
holds wherever the drive stands, whatever the handler does and wherever it fails, and carries over
to whole documents.
-/

import StreamPath.Proofs.Delivery
import StreamPath.Proofs.Driving

namespace StreamPath

/-! ### Documents with other tags -/

namespace Markup

/-- Whether pieces are others in which some of the empty tags are written as two tags. The first one
stands where the empty tag does. How the second one names the element, and where it stands, does not
count. -/
inductive Unfolds : List (Nat × Markup) → List (Nat × Markup) → Prop
  | nil : Unfolds [] []
  | keep (entry : Nat × Markup) {pieces unfolded : List (Nat × Markup)}
      (behind : Unfolds pieces unfolded) : Unfolds (entry :: pieces) (entry :: unfolded)
  | unfold (position : Nat) (body : List Char) (endPosition : Nat) (endBody : List Char)
      {pieces unfolded : List (Nat × Markup)} (behind : Unfolds pieces unfolded) :
      Unfolds ((position, .emptyTag body) :: pieces)
        ((position, .startTag body) :: (endPosition, .endTag endBody) :: unfolded)

end Markup

/-- Whether a document is another one with some of the empty tags written as two tags. -/
structure Reading.Unfolds (reading unfolded : Reading) : Prop where
  pieces : Markup.Unfolds reading.pieces unfolded.pieces
  fault : unfolded.fault = reading.fault

/-! ### Nothing is gathered inside an empty element -/

/-- One who is called on the way without taking part in the gathering of text. -/
structure Listener.KeepsPending {σ : Type} (listener : Listener σ) : Prop where
  node : Preserves Progress.pending listener.node
  endNode : Preserves Progress.pending listener.endNode

theorem Handler.keepsPending {σ : Type} (handler : Handler σ) : handler.listener.KeepsPending :=
  ⟨fun _ => rfl, fun _ => rfl⟩

theorem Listener.KeepsPending.noting {σ τ : Type} {listener : Listener σ}
    (keeps : listener.KeepsPending) (begins ends : Progress σ → τ) :
    (listener.noting begins ends).KeepsPending :=
  ⟨fun progress => keeps.node progress.alone, fun progress => keeps.endNode progress.alone⟩

namespace Drive

section Gathering

variable {σ : Type} {listener : Listener σ} (keeps : listener.KeepsPending) (options : WalkOptions)

include keeps

theorem preserves_enter (make : Nat → Node) : Preserves Progress.pending (enter listener make) :=
  .bind (fun _ => rfl) fun _ => .bind (fun _ => rfl) fun _ =>
    .bind (fun _ => rfl) fun _ => keeps.node

theorem preserves_leave : Preserves Progress.pending (leave listener) := by
  refine .bind keeps.endNode fun _ => .bind (fun _ => rfl) fun top =>
    .bind (fun _ => rfl) fun _ => ?_
  split
  · exact fun _ => rfl
  · exact .pure ()

theorem preserves_leaf (make : Nat → Node) : Preserves Progress.pending (leaf listener make) :=
  .bind (preserves_enter keeps make) fun _ => preserves_leave keeps

theorem preserves_beginElement (position : Nat) (body : List Char) :
    Preserves Progress.pending (beginElement listener position body) := by
  refine .bind (fun _ => rfl) fun scan => ?_
  split
  · exact fun _ => rfl
  · exact .bind (fun _ => rfl) fun _ => preserves_enter keeps _

/-- When gathered text has become a node, or has been left out, there is none. -/
theorem pending_flush (progress : Progress σ) :
    (flush listener options progress).2.pending = [] := by
  rw [flush_apply]
  split
  · exact preserves_leaf keeps _ progress.cleared
  · rfl

omit keeps in
/-- Where there is no gathered text, nothing becomes of it. -/
theorem flush_of_none {progress : Progress σ} (none : progress.pending = []) :
    flush listener options progress = (.ok (), progress) := by
  obtain ⟨⟨scopes, pending, serial⟩, stage⟩ := progress
  obtain rfl : pending = [] := none
  rfl

/-- Behind gathered text an element begins with no text to come before its first piece. -/
theorem beginElement_flush (position : Nat) (body : List Char) {progress : Progress σ}
    (none : progress.pending = []) :
    (beginElement listener position body >>= fun _ => flush listener options) progress =
      beginElement listener position body progress := by
  have kept := preserves_beginElement keeps position body progress
  rw [bind_apply]
  rcases ran : beginElement listener position body progress with ⟨error | ⟨⟩, inside⟩
  · rfl
  · rw [ran] at kept
    exact flush_of_none options (kept.trans none)

/-- A tag that begins an element and one that ends it do together what an empty tag does. -/
theorem piece_startTag_endTag (position : Nat) (body : List Char) (endPosition : Nat)
    (endBody : List Char) :
    (piece listener options position (.startTag body) >>= fun _ =>
        piece listener options endPosition (.endTag endBody)) =
      piece listener options position (.emptyTag body) := by
  funext progress
  show ((flush listener options >>= fun _ => beginElement listener position body) >>= fun _ =>
      flush listener options >>= fun _ => leave listener) progress =
    (flush listener options >>= fun _ => beginElement listener position body >>= fun _ =>
      leave listener) progress
  rw [bind_assoc, bind_apply, bind_apply]
  have none := pending_flush keeps options progress
  rcases flushed : flush listener options progress with ⟨error | ⟨⟩, between⟩
  · rfl
  · rw [flushed] at none
    dsimp only
    rw [← bind_assoc, bind_apply, beginElement_flush keeps options position body none, bind_apply]

theorem pieces_eq_of_unfolds {pieces unfolded : List (Nat × Markup)}
    (unfolds : Markup.Unfolds pieces unfolded) :
    Drive.pieces listener options unfolded = Drive.pieces listener options pieces := by
  induction unfolds with
  | nil => rfl
  | keep entry behind inductionHypothesis =>
    unfold Drive.pieces
    rw [inductionHypothesis]
  | unfold position body endPosition endBody behind inductionHypothesis =>
    simp only [Drive.pieces]
    rw [inductionHypothesis, ← piece_startTag_endTag keeps options position body
      endPosition endBody, bind_assoc]

theorem document_eq_of_unfolds {reading unfolded : Reading} (unfolds : reading.Unfolds unfolded) :
    document listener options unfolded = document listener options reading := by
  unfold document
  rw [pieces_eq_of_unfolds keeps options unfolds.pieces, unfolds.fault]

end Gathering

end Drive

/-! ### Walks -/

namespace Scan

variable {options : WalkOptions}

/-- Where there is no gathered text, nothing becomes of it. -/
theorem flush_of_none (options : WalkOptions) {scan : Scan} (none : scan.pending = []) :
    scan.flush options = ([], scan) := by
  obtain ⟨scopes, pending, serial⟩ := scan
  obtain rfl : pending = [] := none
  rfl

/-- A walk finds no text in an element that has only just begun, so it changes the same for both
spellings. -/
theorem steps_startTag_endTag (scan : Scan) (position : Nat) (body : List Char) (endPosition : Nat)
    (endBody : List Char) (rest : List (Nat × Markup)) :
    scan.steps options ((position, .startTag body) :: (endPosition, .endTag endBody) :: rest) =
      scan.steps options ((position, .emptyTag body) :: rest) := by
  simp only [steps, step]
  cases (scan.flush options).2.elementOf position body with
  | error error => rfl
  | ok node =>
    have none : ((scan.flush options).2.openElement node).2.pending = [] := by
      rw [flush_snd]
      rfl
    simp only [andThen, step.done, flush_of_none options none, List.nil_append, List.append_assoc]

theorem steps_eq_of_unfolds {pieces unfolded : List (Nat × Markup)}
    (unfolds : Markup.Unfolds pieces unfolded) (scan : Scan) :
    scan.steps options unfolded = scan.steps options pieces := by
  induction unfolds generalizing scan with
  | nil => rfl
  | keep entry behind inductionHypothesis =>
    unfold steps
    simp only [inductionHypothesis]
  | unfold position body endPosition endBody behind inductionHypothesis =>
    rw [steps_startTag_endTag]
    unfold steps
    simp only [inductionHypothesis]

end Scan

theorem Reading.walk_eq_of_unfolds (options : WalkOptions) (serial : Nat)
    {reading unfolded : Reading} (unfolds : reading.Unfolds unfolded) :
    unfolded.walk options serial = reading.walk options serial := by
  unfold walk
  dsimp only
  rw [Scan.steps_eq_of_unfolds unfolds.pieces, unfolds.fault]

/-! ### Whole documents -/

section Documents

variable {σ : Type}

/-- A document with some of its empty tags written as two tags brings a drive to the same end from
wherever it begins: with the same error or with none, as many nodes numbered, and the same chain,
tallies and state of the handler. The handler is called in the same order, each time with the same
node on top of the same chain, whatever it changes. The walks through both documents are the same.
-/
theorem drive_unfolded (handler : Handler σ) (options : WalkOptions) {reading unfolded : Reading}
    (unfolds : reading.Unfolds unfolded) :
    (∀ progress, Drive.document handler.listener options unfolded progress =
      Drive.document handler.listener options reading progress) ∧
    (∀ progress, Drive.document handler.watched.surveyed options unfolded progress =
      Drive.document handler.watched.surveyed options reading progress) ∧
    ∀ serial, unfolded.walk options serial = reading.walk options serial :=
  ⟨congrFun (Drive.document_eq_of_unfolds handler.keepsPending options unfolds),
    congrFun (Drive.document_eq_of_unfolds (handler.watched.keepsPending.noting id id) options
      unfolds),
    fun serial => Reading.walk_eq_of_unfolds options serial unfolds⟩

/-- Of a marked element the comment ends in its place, so that its namespaces stay in scope for the
next one. -/
theorem drive_unfolded_marked :
    let reading : Reading := { pieces := [(0, .startTag "a".toList),
      (3, .emptyTag "b xmlns:p='u'".toList), (19, .emptyTag "p:c".toList),
      (25, .endTag "a".toList)] }
    let unfolded : Reading := { pieces := [(0, .startTag "a".toList),
      (3, .startTag "b xmlns:p='u'".toList), (18, .endTag "b".toList), (19, .emptyTag "p:c".toList),
      (25, .endTag "a".toList)] }
    let start : Progress Unit :=
      { scan := { serial := 0 }, stage := { context := {}, state := () } }
    reading.Unfolds unfolded ∧
      Drive.document marksElements.listener {} unfolded start =
        Drive.document marksElements.listener {} reading start ∧
      (Drive.document marksElements.listener {} reading start).1 = .ok () ∧
      (reading.walk {} 0).error = some (.undeclaredPrefix "p" 19) := by
  intro reading unfolded start
  have unfolds : reading.Unfolds unfolded :=
    ⟨.keep _ (.unfold _ _ _ _ (.keep _ (.keep _ .nil))), rfl⟩
  exact ⟨unfolds, (drive_unfolded marksElements {} unfolds).1 start,
    ok_of_toOption (by decide +kernel), by decide +kernel⟩

end Documents

end StreamPath
