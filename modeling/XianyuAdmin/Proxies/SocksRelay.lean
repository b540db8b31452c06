import XianyuAdmin.Core.Transition

/-!
# The relay of the SOCKS bridge

After a successful connect, `SocksBridge._relay` runs one copy loop for each way.  The first loop
that comes to the end of its stream ends the relay: the other one is cancelled at the `await` at
which it is, and what its side sends from then on is not read.  What a loop has written is sent
by the transport, also when the writer is closed afterwards.
-/

namespace XianyuAdmin.Proxies

open Transition

inductive Way
  | clientToRemote
  | remoteToClient
  deriving DecidableEq, Repr

/-- An `asyncio.StreamReader`: what has arrived and was not read, and whether the stream has
ended. -/
structure StreamReader where
  buffer : List UInt8 := []
  eof : Bool := false
  deriving DecidableEq

inductive Copy
  /-- `await source.read(64 * 1024)` -/
  | reading
  /-- `await target.drain()`, after `target.write(data)`. -/
  | draining
  | returned
  | cancelled
  deriving DecidableEq, Repr

def Copy.isDone : Copy → Bool
  | .returned | .cancelled => true
  | .reading | .draining => false

/-- Where `_relay` is. -/
inductive RelayPhase
  /-- `await asyncio.wait(tasks, return_when=asyncio.FIRST_COMPLETED)` -/
  | waiting
  /-- `await asyncio.gather(...)`, after the pending loops were told to end. -/
  | gathering
  | finished
  deriving DecidableEq, Repr

structure Relay where
  reader : Way → StreamReader := fun _ => { }
  written : Way → List UInt8 := fun _ => []
  copy : Way → Copy := fun _ => .reading
  phase : RelayPhase := .waiting

/-- `64 * 1024` -/
def chunkSize : ℕ := 64 * 1024

inductive RelayAct
  | arrives (way : Way) (chunk : List UInt8)
  | ends (way : Way)
  /-- `read` returns, and what it returned is written. -/
  | reads (way : Way)
  /-- `drain` returns. -/
  | drains (way : Way)
  /-- `wait` returns. -/
  | wakes
  /-- The loop ends with the `CancelledError`. -/
  | cancels (way : Way)
  /-- `gather` returns. -/
  | finishes

/-- `data := await source.read(64 * 1024)`, and the turn of the loop up to its `drain`. -/
def Relay.read? (relay : Relay) (way : Way) : Option Relay :=
  let source := relay.reader way
  match source.buffer with
  | [] =>
      if source.eof then some { relay with copy := Function.update relay.copy way .returned }
      else none
  | byte :: rest =>
      some { relay with
        reader := Function.update relay.reader way
          { source with buffer := (byte :: rest).drop chunkSize }
        written := Function.update relay.written way
          (relay.written way ++ (byte :: rest).take chunkSize)
        copy := Function.update relay.copy way .draining }

def Relay.step? (relay : Relay) : RelayAct → Option Relay
  | .arrives way chunk =>
      let source := relay.reader way
      if source.eof then none
      else some { relay with
        reader := Function.update relay.reader way
          { source with buffer := source.buffer ++ chunk } }
  | .ends way =>
      some { relay with
        reader := Function.update relay.reader way { relay.reader way with eof := true } }
  | .reads way =>
      if relay.phase = .waiting ∧ relay.copy way = .reading then relay.read? way else none
  | .drains way =>
      if relay.phase = .waiting ∧ relay.copy way = .draining then
        some { relay with copy := Function.update relay.copy way .reading }
      else none
  | .wakes =>
      if relay.phase = .waiting ∧
          ((relay.copy .clientToRemote).isDone || (relay.copy .remoteToClient).isDone) then
        some { relay with phase := .gathering }
      else none
  | .cancels way =>
      if relay.phase = .gathering ∧ (relay.copy way).isDone = false then
        some { relay with copy := Function.update relay.copy way .cancelled }
      else none
  | .finishes =>
      if relay.phase = .gathering ∧
          ((relay.copy .clientToRemote).isDone && (relay.copy .remoteToClient).isDone) then
        some { relay with phase := .finished }
      else none

/-- What the side sends before the end of its stream. -/
def sentBytes (way : Way) : List RelayAct → List UInt8
  | [] => []
  | .arrives other chunk :: rest =>
      if other = way then chunk ++ sentBytes way rest else sentBytes way rest
  | .ends _ :: rest | .reads _ :: rest | .drains _ :: rest | .wakes :: rest
  | .cancels _ :: rest | .finishes :: rest => sentBytes way rest

def LosesNothing (acts : List RelayAct) (relay : Relay) : Prop :=
  ∀ way, relay.written way = sentBytes way acts

def answerAfterHalfClose : List RelayAct :=
  [.ends .clientToRemote, .reads .clientToRemote, .wakes, .arrives .remoteToClient [72, 105],
    .ends .remoteToClient, .cancels .remoteToClient, .finishes]

/-- The answer of the remote side is lost. -/
theorem half_close_loses_answer :
    ∃ relay, Run (ofPartial Relay.step?) { } answerAfterHalfClose relay ∧
      relay.phase = .finished ∧ ¬ LosesNothing answerAfterHalfClose relay := by
  refine ⟨_, run_ofPartial_iff.mpr rfl, rfl, fun hnothing => ?_⟩
  exact absurd (hnothing .remoteToClient) (by decide)

def Relay.received (relay : Relay) (way : Way) : List UInt8 :=
  relay.written way ++ (relay.reader way).buffer

structure Sound (relay : Relay) : Prop where
  returned : ∀ way, relay.copy way = .returned →
    (relay.reader way).eof = true ∧ (relay.reader way).buffer = []
  waiting : relay.phase = .waiting → ∀ way, relay.copy way ≠ .cancelled
  woken : relay.phase ≠ .waiting → ∃ way, relay.copy way = .returned

section Step

variable {relay next : Relay} {act : RelayAct} {way : Way}

/-- What a turn of a loop does: at the end of the stream it returns, and otherwise it passes
on the front of what has arrived. -/
theorem read?_cases (hread : relay.read? way = some next) :
    ((relay.reader way).buffer = [] ∧ (relay.reader way).eof = true ∧
      next = { relay with copy := Function.update relay.copy way .returned }) ∨
    ∃ front back, (relay.reader way).buffer = front ++ back ∧
      next = { relay with
        reader := Function.update relay.reader way { relay.reader way with buffer := back }
        written := Function.update relay.written way (relay.written way ++ front)
        copy := Function.update relay.copy way .draining } := by
  unfold Relay.read? at hread
  dsimp only at hread
  split at hread
  · rename_i hbuffer
    split at hread
    · rename_i heof
      cases hread
      exact .inl ⟨hbuffer, heof, rfl⟩
    · cases hread
  · rename_i byte rest hbuffer
    cases hread
    exact .inr ⟨(byte :: rest).take chunkSize, (byte :: rest).drop chunkSize,
      by rw [hbuffer, List.take_append_drop], rfl⟩

/-- A step loses nothing of what has arrived, and adds what arrives. -/
theorem received_of_step? (happly : relay.step? act = some next) :
    next.received way = relay.received way ++ sentBytes way [act] := by
  cases act with
  | arrives other chunk =>
      simp only [Relay.step?] at happly
      split at happly
      · cases happly
      · cases happly
        by_cases hother : other = way
        · subst hother
          simp [Relay.received, sentBytes]
        · simp [Relay.received, sentBytes, hother, Function.update_of_ne (Ne.symm hother)]
  | ends other =>
      cases happly
      by_cases hother : way = other
      · subst hother
        simp [Relay.received, sentBytes]
      · simp [Relay.received, sentBytes, Function.update_of_ne hother]
  | reads other =>
      simp only [Relay.step?] at happly
      split at happly
      · rcases read?_cases happly with ⟨-, -, rfl⟩ | ⟨front, back, hbuffer, rfl⟩
        · simp [Relay.received, sentBytes]
        · by_cases hother : way = other
          · subst hother
            simp [Relay.received, sentBytes, hbuffer]
          · simp [Relay.received, sentBytes, Function.update_of_ne hother]
      · cases happly
  | drains other | wakes | cancels other | finishes =>
      simp only [Relay.step?] at happly
      split at happly
      · cases happly
        simp [Relay.received, sentBytes]
      · cases happly

theorem Sound.setReader (hsound : Sound relay) {source : StreamReader}
    {written : Way → List UInt8}
    (hreturned : relay.copy way = .returned → source.eof = true ∧ source.buffer = []) :
    Sound { relay with reader := Function.update relay.reader way source, written := written } := by
  refine ⟨fun other hother => ?_, hsound.waiting, hsound.woken⟩
  by_cases hway : other = way
  · subst hway
    simpa only [Function.update_self] using hreturned hother
  · simpa only [Function.update_of_ne hway] using hsound.returned other hother

theorem Sound.setCopy (hsound : Sound relay) {copy : Copy} (hrunning : relay.copy way ≠ .returned)
    (hreturned : copy = .returned →
      (relay.reader way).eof = true ∧ (relay.reader way).buffer = [])
    (hcancelled : relay.phase = .waiting → copy ≠ .cancelled) :
    Sound { relay with copy := Function.update relay.copy way copy } := by
  refine ⟨fun other hother => ?_, fun hphase other => ?_, fun hphase => ?_⟩
  · by_cases hway : other = way
    · subst hway
      simp only [Function.update_self] at hother
      exact hreturned hother
    · simp only [Function.update_of_ne hway] at hother
      exact hsound.returned other hother
  · by_cases hway : other = way
    · subst hway
      simpa only [Function.update_self] using hcancelled hphase
    · simpa only [Function.update_of_ne hway] using hsound.waiting hphase other
  · obtain ⟨other, hother⟩ := hsound.woken hphase
    have hway : other ≠ way := by
      rintro rfl
      exact hrunning hother
    exact ⟨other, by simpa only [Function.update_of_ne hway] using hother⟩

theorem Sound.step? (hsound : Sound relay) (happly : relay.step? act = some next) :
    Sound next := by
  cases act with
  | arrives way chunk =>
      simp only [Relay.step?] at happly
      split at happly
      · cases happly
      · rename_i hopen
        cases happly
        exact hsound.setReader fun hreturned =>
          absurd (hsound.returned way hreturned).1 hopen
  | ends way =>
      cases happly
      exact hsound.setReader fun hreturned => ⟨rfl, (hsound.returned way hreturned).2⟩
  | reads way =>
      simp only [Relay.step?] at happly
      split at happly
      · rename_i hreads
        have hrunning : relay.copy way ≠ .returned := by
          rw [hreads.2]
          decide
        rcases read?_cases happly with ⟨hbuffer, heof, rfl⟩ | ⟨front, back, -, rfl⟩
        · exact hsound.setCopy hrunning (fun _ => ⟨heof, hbuffer⟩) fun _ => by decide
        · exact (hsound.setReader fun hreturned => absurd hreturned hrunning).setCopy hrunning
            (fun hdraining => absurd hdraining (by decide)) fun _ => by decide
      · cases happly
  | drains way =>
      simp only [Relay.step?] at happly
      split at happly
      · rename_i hdrains
        cases happly
        refine hsound.setCopy ?_ (fun hreading => absurd hreading (by decide)) fun _ => by decide
        rw [hdrains.2]
        decide
      · cases happly
  | wakes =>
      simp only [Relay.step?] at happly
      split at happly
      · rename_i hwakes
        cases happly
        refine ⟨hsound.returned, nofun, fun _ => ?_⟩
        -- nothing is cancelled yet, so the loop that is done has returned
        have hdone : ∀ way, (relay.copy way).isDone = true → relay.copy way = .returned := by
          intro way hway
          have hnot := hsound.waiting hwakes.1 way
          cases hcopy : relay.copy way <;> simp_all [Copy.isDone]
        rcases Bool.or_eq_true_iff.mp hwakes.2 with hclient | hremote
        · exact ⟨.clientToRemote, hdone _ hclient⟩
        · exact ⟨.remoteToClient, hdone _ hremote⟩
      · cases happly
  | cancels way =>
      simp only [Relay.step?] at happly
      split at happly
      · rename_i hcancels
        cases happly
        refine hsound.setCopy ?_ (fun hcancelled => absurd hcancelled (by decide)) fun hphase => ?_
        · intro hreturned
          rw [hreturned] at hcancels
          exact absurd hcancels.2 (by decide)
        · rw [hcancels.1] at hphase
          cases hphase
      · cases happly
  | finishes =>
      simp only [Relay.step?] at happly
      split at happly
      · rename_i hfinishes
        cases happly
        refine ⟨hsound.returned, nofun,
          fun _ => hsound.woken ?_⟩
        rw [hfinishes.1]
        decide
      · cases happly

end Step

theorem sound_new : Sound { } where
  returned := by
    intro way hreturned
    cases hreturned
  waiting := by
    intro _ way hcancelled
    cases hcancelled
  woken := fun hphase => absurd rfl hphase

theorem sentBytes_cons (way : Way) (act : RelayAct) (acts : List RelayAct) :
    sentBytes way (act :: acts) = sentBytes way [act] ++ sentBytes way acts := by
  cases act with
  | arrives other chunk =>
      simp only [sentBytes]
      split
      · rw [List.append_nil]
      · rfl
  | ends other | reads other | drains other | wakes | cancels other | finishes => rfl

theorem received_of_run {start final : Relay} {acts : List RelayAct} {way : Way}
    (hrun : Run (ofPartial Relay.step?) start acts final) :
    final.received way = start.received way ++ sentBytes way acts := by
  induction hrun with
  | nil => simp [sentBytes]
  | cons hstep _ ih =>
      rw [ih, received_of_step? hstep, List.append_assoc, ← sentBytes_cons]

/-- Whatever the order of chunks, ends and cancellations, each side is sent a front of what the
other side sends.  When the relay has finished, one side has ended its stream, and all that
it sent was sent on. -/
theorem relay_forwards {acts : List RelayAct} {relay : Relay}
    (hrun : Run (ofPartial Relay.step?) { } acts relay) :
    (∀ way, relay.written way <+: sentBytes way acts) ∧
    (∀ way, relay.copy way = .returned →
      (relay.reader way).eof = true ∧ relay.written way = sentBytes way acts) ∧
    (relay.phase = .finished → ∃ way, relay.copy way = .returned) := by
  have hsound : Sound relay :=
    hrun.invariant Sound (fun _ _ _ hsound hstep => hsound.step? hstep) sound_new
  have hreceived : ∀ way, relay.received way = sentBytes way acts := fun way =>
    received_of_run hrun
  refine ⟨fun way => ?_, fun way hreturned => ?_, fun hfinished => ?_⟩
  · rw [← hreceived way]
    exact List.prefix_append _ _
  · obtain ⟨heof, hbuffer⟩ := hsound.returned way hreturned
    refine ⟨heof, ?_⟩
    rw [← hreceived way, Relay.received, hbuffer, List.append_nil]
  · refine hsound.woken ?_
    rw [hfinished]
    decide

/-- The client sends a request and ends its stream; the request is sent on. -/
theorem relay_forwards_request :
    ∃ relay, Run (ofPartial Relay.step?) { }
        [.arrives .clientToRemote [71], .reads .clientToRemote, .drains .clientToRemote,
          .ends .clientToRemote, .reads .clientToRemote] relay ∧
      relay.written .clientToRemote = [71] := by
  have hrun : Run (ofPartial Relay.step?) { }
      [.arrives .clientToRemote [71], .reads .clientToRemote, .drains .clientToRemote,
        .ends .clientToRemote, .reads .clientToRemote] _ := run_ofPartial_iff.mpr rfl
  exact ⟨_, hrun, ((relay_forwards hrun).2.1 .clientToRemote rfl).2⟩

end XianyuAdmin.Proxies
