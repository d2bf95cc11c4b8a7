import FormMigrate.App.Session
import FormMigrate.Proofs.State

/-! How sessions end: with a value or a failure, and in a state of what they run on. What they tell
on the way has no part in it.
-/

namespace FormMigrate.Session

variable {σ α β : Type}

/-- From a state, a session ends as described, whatever was told before it. -/
def Ends (session : Session (StateM σ) α) (s : σ) (post : Except ProgramFailure α → σ → Prop)
    : Prop :=
  ∀ transcript, post (session.run.run transcript s).1.1 (session.run.run transcript s).2

variable {s : σ} {post mid : Except ProgramFailure α → σ → Prop}

theorem Ends.pure {a : α} (h : post (.ok a) s) : Ends (pure a) s post := fun _ => h

theorem Ends.throw {failure : ProgramFailure} (h : post (.error failure) s)
    : Ends (throw failure) s post :=
  fun _ => h

theorem Ends.tell {output : Bytes} {post : Except ProgramFailure Unit → σ → Prop}
    (h : post (.ok ()) s)
    : Ends (tell output) s post :=
  fun _ => h

theorem Ends.note {level : LogLevel} {message : Bytes} {attributes : List (Bytes × LogValue)}
    {post : Except ProgramFailure Unit → σ → Prop} (h : post (.ok ()) s)
    : Ends (note level message attributes) s post :=
  fun _ => h

theorem Ends.access {action : StateM σ α} (h : post (.ok (action s).1) (action s).2)
    : Ends (access action) s post :=
  fun _ => h

/-- A session that is tried hands on how it ended. -/
theorem Ends.attempt {session : Session (StateM σ) α} (h : Ends session s mid)
    : Ends (ExceptT.lift session.run : Session (StateM σ) (Except ProgramFailure α)) s
        fun tried s' => ∃ outcome, tried = .ok outcome ∧ mid outcome s' :=
  fun transcript => ⟨_, rfl, h transcript⟩

theorem Ends.mono {session : Session (StateM σ) α} (h : Ends session s mid)
    (weaker : ∀ outcome s', mid outcome s' → post outcome s')
    : Ends session s post :=
  fun transcript => weaker _ _ (h transcript)

/-- A session in two parts runs the second one with what the first one gave, unless that failed. -/
theorem run_bind (first : Session (StateM σ) α) (next : α → Session (StateM σ) β)
    (transcript : Transcript) (s : σ)
    : (first >>= next).run.run transcript s
      = match first.run.run transcript s with
        | ((.ok a, told), s') => (next a).run.run told s'
        | ((.error failure, told), s') => ((.error failure, told), s') := by
  show (ExceptT.bindCont next (first.run.run transcript s).1.1).run
      (first.run.run transcript s).1.2 (first.run.run transcript s).2 = _
  rcases first.run.run transcript s with ⟨⟨failure | a, told⟩, s'⟩ <;> rfl

section

variable {next : β → Session (StateM σ) α} {told : Unit → Session (StateM σ) α}

/-- Telling and noting change no state. -/
theorem Ends.tell_bind {output : Bytes} (h : Ends (told ()) s post)
    : Ends (Session.tell output >>= told) s post :=
  fun _ => h _

theorem Ends.noteAll_bind {entries : List LogEntry} (h : Ends (told ()) s post)
    : Ends (Session.noteAll entries >>= told) s post :=
  fun _ => h _

theorem Ends.note_bind {level : LogLevel} {message : Bytes} {attributes : List (Bytes × LogValue)}
    (h : Ends (told ()) s post)
    : Ends (Session.note level message attributes >>= told) s post :=
  fun _ => h _

/-- An access hands on what it gave. -/
theorem Ends.access_bind {action : StateM σ β} {b : β} {s' : σ} (ran : action s = (b, s'))
    (h : Ends (next b) s' post)
    : Ends (Session.access action >>= next) s post := by
  intro transcript
  have after := h transcript
  rw [show b = (action s).1 by rw [ran], show s' = (action s).2 by rw [ran]] at after
  exact after

end

/-- A session goes on from where its first part ends, unless that part fails. -/
theorem Ends.bind {first : Session (StateM σ) α} {next : α → Session (StateM σ) β}
    {post : Except ProgramFailure β → σ → Prop} (h : Ends first s mid)
    (goesOn : ∀ a s', mid (.ok a) s' → Ends (next a) s' post)
    (stops : ∀ failure s', mid (.error failure) s' → post (.error failure) s')
    : Ends (first >>= next) s post := by
  intro transcript
  have ended := h transcript
  rw [run_bind]
  revert ended
  rcases first.run.run transcript s with ⟨⟨failure | a, told⟩, s'⟩
  · exact stops failure s'
  · exact fun ended => goesOn a s' ended told

--------------------------------------------------------------------------------
-- Sessions that change nothing
--------------------------------------------------------------------------------

variable {ω : Type} {part : σ → ω}

/-- A session that leaves a part of the state as it is, however it ends. -/
def Quiet (part : σ → ω) (session : Session (StateM σ) α) : Prop :=
  ∀ s, session.Ends s fun _ s' => part s' = part s

namespace Quiet

theorem pure (a : α) : Quiet part (pure a) := fun _ => .pure rfl

theorem throw (failure : ProgramFailure)
    : Quiet part (throw failure : Session (StateM σ) α) := fun _ => .throw rfl

theorem tell (output : Bytes) : Quiet part (tell output) := fun _ => .tell rfl

theorem note (level : LogLevel) (message : Bytes) (attributes : List (Bytes × LogValue))
    : Quiet part (note level message attributes) := fun _ => .note rfl

theorem access {action : StateM σ α} (h : OnlyLooks part action)
    : Quiet part (access action) := fun s => .access (h s)

theorem bind {first : Session (StateM σ) α} {next : α → Session (StateM σ) β}
    (h : Quiet part first) (h' : ∀ a, Quiet part (next a))
    : Quiet part (first >>= next) := fun s =>
  (h s).bind (fun a s' same => (h' a s').mono fun _ _ same' => same'.trans same) fun _ _ same => same

end Quiet

end FormMigrate.Session
