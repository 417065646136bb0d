import GoNoise.Conn.Handshake
import GoNoise.Library.Traces

/-!
# `conn/conn.go`, `conn/handshake.go`, `conn/state.go`: the life of a core connection

`Close`, `Handshake`, `StartHandshake`, `CompleteHandshake`, `FailHandshake`, `Read` and `Write` may
be called from any number of goroutines. They share the state of the connection, which each of them
reads and writes under `stateMutex`, and the keys, which `Close` overwrites.
-/

namespace GoNoise.Conn.Lifecycle

open Trace

/-! ## Shared memory -/

/-- Key material in memory. -/
inductive Key
  | live
  | zeroed
  deriving DecidableEq

/-- The fields of `Conn` that the calls share. A mutex is the number of the call that holds it. -/
structure Shared where
  state : ConnState
  privateStaticKey : Option Key
  sendCipherState : Option Key
  recvCipherState : Option Key
  handshakeMutex : Option ℕ
  closeMutex : Option ℕ
  readMutex : Option ℕ
  writeMutex : Option ℕ
  /-- how often the underlying connection was closed -/
  closes : ℕ
  /-- `Close` has set the closed state -/
  closedSet : Bool
  /-- a key was used after it was overwritten -/
  usedZeroed : Bool
  deriving DecidableEq

namespace Shared

def use (key : Option Key) (m : Shared) : Shared :=
  { m with usedZeroed := m.usedZeroed || key == some .zeroed }

def updateCipherStates (send recv : Bool) (m : Shared) : Shared :=
  { m with
    sendCipherState := if send then some .live else m.sendCipherState
    recvCipherState := if recv then some .live else m.recvCipherState }

end Shared

/-! ## Calls -/

/-- The two directions of data. -/
inductive Direction
  | read
  | write
  deriving DecidableEq

/-- The methods. -/
inductive Op
  | close
  | handshake
  | startHandshake
  | completeHandshake
  | failHandshake
  | io (direction : Direction)
  deriving DecidableEq

/-- Where a call of `Close` stands. -/
inductive ClosePoint
  | lock
  | checkAndSet
  | zeroSend
  | zeroRecv
  | zeroStatic
  | underlying
  | unlock
  deriving DecidableEq

/-- Where a call of `Handshake` stands. -/
inductive HandshakePoint
  | lock
  | check
  | start
  | message
  | reset
  | setInit
  | hook
  | complete
  | unlock
  deriving DecidableEq

/-- Where a call of `FailHandshake` stands. -/
inductive FailPoint
  | reset
  | setInit
  deriving DecidableEq

/-- Where a call of `Read` or `Write` stands. -/
inductive IoPoint
  | closed
  | done
  | cipher
  | lock
  | use
  | unlock
  deriving DecidableEq

/-- A call and where it stands. -/
inductive Thread
  | close (point : ClosePoint)
  | handshake (point : HandshakePoint)
  | startHandshake
  | completeHandshake
  | failHandshake (point : FailPoint)
  | io (direction : Direction) (point : IoPoint)
  | returned (op : Op)
  deriving DecidableEq

/-- A call that was just made. -/
def Thread.ofOp : Op → Thread
  | .close => .close .lock
  | .handshake => .handshake .lock
  | .startHandshake => .startHandshake
  | .completeHandshake => .completeHandshake
  | .failHandshake => .failHandshake .reset
  | .io direction => .io direction .closed

/-- What the environment decides at a step: whether the step succeeds, whether it uses the static
key, and which cipher states a handshake message yields. -/
inductive Choice
  | fails (usesKey : Bool)
  | succeeds (usesKey send recv : Bool)
  /-- of the last message -/
  | completes (usesKey send recv : Bool)
  deriving DecidableEq

def Choice.usesKey : Choice → Bool
  | .fails usesKey => usesKey
  | .succeeds usesKey _ _ => usesKey
  | .completes usesKey _ _ => usesKey

def Choice.key (choice : Choice) (m : Shared) : Option Key :=
  if choice.usesKey then m.privateStaticKey else none

/-- `Close` from where it stands. `none` while it waits for the mutex. -/
def advanceClose (i : ℕ) (m : Shared) : ClosePoint → Option (Thread × Shared)
  | .lock =>
    if m.closeMutex = none then some (.close .checkAndSet, { m with closeMutex := some i })
    else none
  | .checkAndSet =>
    -- under `stateMutex`
    if m.state = .closed then some (.close .unlock, m)
    else some (.close .zeroSend, { m with state := .closed, closedSet := true })
  | .zeroSend =>
    some (.close .zeroRecv, { m with sendCipherState := m.sendCipherState.map fun _ => .zeroed })
  | .zeroRecv =>
    some (.close .zeroStatic, { m with recvCipherState := m.recvCipherState.map fun _ => .zeroed })
  | .zeroStatic =>
    some (.close .underlying,
      { m with privateStaticKey := m.privateStaticKey.map fun _ => .zeroed })
  | .underlying => some (.close .unlock, { m with closes := m.closes + 1 })
  | .unlock => some (.returned .close, { m with closeMutex := none })

/-- `resetHandshakeState`: the public key is derived from the static key again. -/
def reset (choice : Choice) (m : Shared) : Shared :=
  match choice with
  | .fails _ => m.use m.privateStaticKey
  | _ => { m.use m.privateStaticKey with sendCipherState := none, recvCipherState := none }

/-- `Handshake` from where it stands. `none` while it waits for the mutex. -/
def advanceHandshake (i : ℕ) (choice : Choice) (m : Shared) :
    HandshakePoint → Option (Thread × Shared)
  | .lock =>
    if m.handshakeMutex = none then
      some (.handshake .check, { m with handshakeMutex := some i })
    else none
  | .check =>
    if m.state = .established then some (.handshake .unlock, m) else some (.handshake .start, m)
  | .start => some (.handshake .message, { m with state := .handshaking })
  | .message =>
    match choice with
    | .fails _ => some (.handshake .reset, m.use (choice.key m))
    | .succeeds _ send recv =>
      some (.handshake .message, (m.use (choice.key m)).updateCipherStates send recv)
    | .completes _ send recv =>
      some (.handshake .hook, (m.use (choice.key m)).updateCipherStates send recv)
  | .reset => some (.handshake .setInit, reset choice m)
  | .setInit => some (.handshake .unlock, { m with state := .init })
  | .hook =>
    match choice with
    | .fails _ => some (.handshake .setInit, m)
    | _ => some (.handshake .complete, m)
  | .complete => some (.handshake .unlock, { m with state := .established })
  | .unlock => some (.returned .handshake, { m with handshakeMutex := none })

def Shared.cipherState (m : Shared) : Direction → Option Key
  | .read => m.recvCipherState
  | .write => m.sendCipherState

def Shared.mutex (m : Shared) : Direction → Option ℕ
  | .read => m.readMutex
  | .write => m.writeMutex

/-- The mutex of a direction is taken or given back. -/
def Shared.setMutex (m : Shared) (owner : Option ℕ) : Direction → Shared
  | .read => { m with readMutex := owner }
  | .write => { m with writeMutex := owner }

/-- `Read` and `Write` from where they stand. `none` while they wait for the mutex. -/
def advanceIo (i : ℕ) (choice : Choice) (m : Shared) (d : Direction) :
    IoPoint → Option (Thread × Shared)
  | .closed =>
    if m.state = .closed then some (.returned (.io d), m) else some (.io d .done, m)
  | .done =>
    if m.state = .established then some (.io d .cipher, m) else some (.returned (.io d), m)
  | .cipher =>
    if m.cipherState d = none then some (.returned (.io d), m) else some (.io d .lock, m)
  | .lock =>
    if m.mutex d = none then some (.io d .use, m.setMutex (some i) d) else none
  | .use =>
    match choice with
    -- pending plaintext, or an error before the cipher is needed
    | .fails _ => some (.io d .unlock, m)
    | _ => some (.io d .unlock, m.use (m.cipherState d))
  | .unlock => some (.returned (.io d), m.setMutex none d)

/-- The next step of call `i`. `none` if it waits or has returned. -/
def advance (i : ℕ) (choice : Choice) (m : Shared) : Thread → Option (Thread × Shared)
  | .close point => advanceClose i m point
  | .handshake point => advanceHandshake i choice m point
  | .startHandshake => some (.returned .startHandshake, { m with state := .handshaking })
  | .completeHandshake => some (.returned .completeHandshake, { m with state := .established })
  | .failHandshake .reset => some (.failHandshake .setInit, reset choice m)
  | .failHandshake .setInit => some (.returned .failHandshake, { m with state := .init })
  | .io d point => advanceIo i choice m d point
  | .returned _ => none

/-! ## Interleavings -/

/-- All calls that were made, in the order in which they were. -/
structure System where
  shared : Shared
  threads : List Thread
  deriving DecidableEq

/-- A call is made, or one of the calls takes its next step. -/
inductive Event
  | call (op : Op)
  | step (i : ℕ) (choice : Choice)
  deriving DecidableEq

def step (s : System) : Event → System
  | .call op => { s with threads := s.threads ++ [.ofOp op] }
  | .step i choice =>
    match s.threads[i]? with
    | none => s
    | some t =>
      match advance i choice s.shared t with
      | none => s
      | some (t', m) => ⟨m, s.threads.set i t'⟩

/-- A new connection, with or without a static key. -/
def new (hasKey : Bool) : System where
  shared := ⟨.init, if hasKey then some .live else none, none, none, none, none, none, none, 0,
    false, false⟩
  threads := []

/-! ## Closing once -/

/-- What is promised: the closed state stays, the underlying connection is closed once, and no key
is used after it was overwritten. -/
structure Once (s : System) : Prop where
  absorbing : s.shared.closedSet = true → s.shared.state = .closed
  atMostOnce : s.shared.closes ≤ 1
  returned : .returned .close ∈ s.threads → s.shared.closes = 1
  unused : s.shared.usedZeroed = false

/-- The call will neither set the state nor use a key if the connection is closed. -/
def Thread.settled : Thread → Bool
  | .close _ => true
  | .returned _ => true
  | .io _ .closed => true
  | .io _ .done => true
  | .io _ .unlock => true
  | _ => false

/-- The methods that set the state to something else than closed. -/
def Op.setsState : Op → Bool
  | .handshake => true
  | .startHandshake => true
  | .completeHandshake => true
  | .failHandshake => true
  | _ => false

/-- No method that sets the state is called on a closed connection; and when `Close` sets the closed
state, no such call is under way and no `Read` or `Write` has passed its checks. -/
def Orderly (s : System) : Event → Prop
  | .call op => op.setsState = true → s.shared.state ≠ .closed
  | .step i _ =>
    s.threads[i]? = some (.close .checkAndSet) → s.shared.state ≠ .closed →
      ∀ t ∈ s.threads, t.settled = true

def Thread.holdsClose : Thread → Bool
  | .close .lock => false
  | .close _ => true
  | _ => false

/-- The call has set the closed state and has not yet closed the underlying connection. -/
def Thread.closing : Thread → Bool
  | .close .zeroSend => true
  | .close .zeroRecv => true
  | .close .zeroStatic => true
  | .close .underlying => true
  | _ => false

/-- The call of `Close` has nothing left to do. -/
def Thread.leaves : Thread → Bool
  | .close .unlock => true
  | .returned .close => true
  | _ => false

/-- No call of `Close`. -/
def Thread.plain : Thread → Bool
  | .close _ => false
  | .returned .close => false
  | _ => true

/-- No key was overwritten. -/
structure Shared.Live (m : Shared) : Prop where
  privateStaticKey : m.privateStaticKey ≠ some .zeroed
  sendCipherState : m.sendCipherState ≠ some .zeroed
  recvCipherState : m.recvCipherState ≠ some .zeroed

/-- The invariant of the shared memory. -/
structure Core (m : Shared) : Prop where
  unused : m.usedZeroed = false
  closedSet : m.closedSet = true ↔ m.state = .closed
  opened : m.state ≠ .closed → m.closes = 0 ∧ m.Live
  atMostOnce : m.closes ≤ 1

/-- The invariant of call `i`. -/
structure Fits (m : Shared) (i : ℕ) (t : Thread) : Prop where
  holds : t.holdsClose = true ↔ m.closeMutex = some i
  settled : m.state = .closed → t.settled = true
  closing : t.closing = true → m.state = .closed ∧ m.closes = 0
  leaves : t.leaves = true → m.closes = 1

/-- The invariant of the system. While the underlying connection of a closed connection is open, a
call of `Close` is on its way to it. -/
structure Inv (s : System) : Prop where
  core : Core s.shared
  fits : ∀ i t, s.threads[i]? = some t → Fits s.shared i t
  closing : s.shared.state = .closed → s.shared.closes = 0 →
    ∃ (i : ℕ) (t : Thread), s.threads[i]? = some t ∧ t.closing = true
  owner : ∀ i, s.shared.closeMutex = some i → i < s.threads.length

/-- What the steps of all calls but those of `Close` keep. -/
structure Keeps (m m' : Shared) : Prop where
  closeMutex : m'.closeMutex = m.closeMutex
  closes : m'.closes = m.closes
  closedSet : m'.closedSet = m.closedSet
  closed : m'.state = .closed ↔ m.state = .closed
  live : m.state ≠ .closed → m'.Live
  unused : m'.usedZeroed = false

section
variable {m m' : Shared} {i : ℕ} {t t' : Thread}

theorem Core.of_keeps (h : Core m) (hk : Keeps m m') : Core m' where
  unused := hk.unused
  closedSet := by rw [hk.closedSet, hk.closed, h.closedSet]
  opened hopen := by
    have hopen' := mt hk.closed.mpr hopen
    exact ⟨hk.closes.trans (h.opened hopen').1, hk.live hopen'⟩
  atMostOnce := hk.closes.le.trans h.atMostOnce

theorem Fits.of_keeps (h : Fits m i t) (hk : Keeps m m') : Fits m' i t where
  holds := by rw [hk.closeMutex, h.holds]
  settled hclosed := h.settled (hk.closed.mp hclosed)
  closing ht := ⟨hk.closed.mpr (h.closing ht).1, hk.closes.trans (h.closing ht).2⟩
  leaves ht := hk.closes.trans (h.leaves ht)

theorem holdsClose_of_plain (h : t.plain = true) : t.holdsClose = false := by
  cases t <;> first | rfl | cases h

theorem closing_of_plain (h : t.plain = true) : t.closing = false := by
  cases t <;> first | rfl | cases h

theorem holdsClose_of_closing (h : t.closing = true) : t.holdsClose = true := by
  cases t with
  | close point => cases point <;> first | rfl | cases h
  | _ => cases h

theorem leaves_of_plain (h : t.plain = true) : t.leaves = false := by
  cases t with
  | returned op => cases op <;> first | rfl | cases h
  | close point => cases h
  | _ => rfl

theorem Fits.plain (h : Fits m i t) (ht : t.plain = true) (hk : Keeps m m')
    (ht' : t'.plain = true) (hsettled : m.state = .closed → t'.settled = true) : Fits m' i t' where
  holds := by
    rw [hk.closeMutex, ← h.holds, holdsClose_of_plain ht, holdsClose_of_plain ht']
  settled hclosed := hsettled (hk.closed.mp hclosed)
  closing hclosing := by grind [closing_of_plain]
  leaves hleaves := by grind [leaves_of_plain]

/-! ### The steps of the calls -/

theorem keeps_iff : Keeps m m' ↔
    m'.closeMutex = m.closeMutex ∧ m'.closes = m.closes ∧ m'.closedSet = m.closedSet ∧
      (m'.state = .closed ↔ m.state = .closed) ∧
      (m.state ≠ .closed → m'.privateStaticKey ≠ some .zeroed ∧
        m'.sendCipherState ≠ some .zeroed ∧ m'.recvCipherState ≠ some .zeroed) ∧
      m'.usedZeroed = false :=
  ⟨fun ⟨h₁, h₂, h₃, h₄, h₅, h₆⟩ =>
    ⟨h₁, h₂, h₃, h₄, fun ho => ⟨(h₅ ho).1, (h₅ ho).2, (h₅ ho).3⟩, h₆⟩,
    fun ⟨h₁, h₂, h₃, h₄, h₅, h₆⟩ =>
    ⟨h₁, h₂, h₃, h₄, fun ho => ⟨(h₅ ho).1, (h₅ ho).2.1, (h₅ ho).2.2⟩, h₆⟩⟩

/-- A step of a call that is not one of `Close`. -/
def PlainStep (m : Shared) (result : Option (Thread × Shared)) : Prop :=
  ∀ t' m', result = some (t', m') →
    Keeps m m' ∧ t'.plain = true ∧ (m.state = .closed → t'.settled = true)

/-- A call that could still set the state or use a key is on an open connection. -/
theorem Fits.opened (h : Fits m i t) (ht : t.settled = false) : m.state ≠ .closed := by
  intro hclosed
  rw [h.settled hclosed] at ht
  cases ht

theorem plainStep_handshake (h : Core m) (hopen : m.state ≠ .closed) (choice : Choice)
    (point : HandshakePoint) : PlainStep m (advanceHandshake i choice m point) := by
  obtain ⟨hstatic, hsend, hrecv⟩ := (h.opened hopen).2
  have hunused := h.unused
  intro t' m' hres
  rw [keeps_iff]
  cases point <;> cases choice <;>
    grind [advanceHandshake, Shared.use, Shared.updateCipherStates, Choice.key, Choice.usesKey,
      reset,
      Thread.plain]

theorem plainStep_io (h : Core m) (choice : Choice) (d : Direction) (point : IoPoint)
    (hsettled : m.state = .closed → (Thread.io d point).settled = true) :
    PlainStep m (advanceIo i choice m d point) := by
  have hlive := fun hopen => (h.opened hopen).2
  have hsend := fun hopen => (hlive hopen).sendCipherState
  have hrecv := fun hopen => (hlive hopen).recvCipherState
  have hstatic := fun hopen => (hlive hopen).privateStaticKey
  have hunused := h.unused
  intro t' m' hres
  rw [keeps_iff]
  cases d <;> cases point <;> cases choice <;>
    grind [advanceIo, Shared.use, Shared.cipherState, Shared.mutex, Shared.setMutex, Thread.plain,
      Thread.settled]

theorem plainStep_advance (h : Core m) (hfits : Fits m i t) (hplain : t.plain = true)
    (choice : Choice) : PlainStep m (advance i choice m t) := by
  cases t with
  | close point => cases hplain
  | handshake point => exact plainStep_handshake h (hfits.opened rfl) choice point
  | io d point => exact plainStep_io h choice d point hfits.settled
  | returned op => rintro _ _ ⟨⟩
  | startHandshake | completeHandshake | failHandshake point =>
    have hopen := hfits.opened rfl
    obtain ⟨hstatic, hsend, hrecv⟩ := (h.opened hopen).2
    have hunused := h.unused
    intro t' m' hres
    rw [keeps_iff]
    (try cases point) <;> cases choice <;> grind [advance, reset, Shared.use, Thread.plain]

/-! ### The system -/

variable {s : System} {op : Op}

section
variable (h : Inv s)
include h

theorem Inv.move (hi : s.threads[i]? = some t) (hcore : Core m') (hfits : Fits m' i t')
    (hothers : ∀ j u, j ≠ i → s.threads[j]? = some u → Fits m' j u)
    (hclosing : m'.state = .closed → m'.closes = 0 →
      t'.closing = true ∨ t.closing = false ∧ s.shared.state = .closed ∧ s.shared.closes = 0)
    (howner : ∀ j, m'.closeMutex = some j → j = i ∨ s.shared.closeMutex = some j) :
    Inv ⟨m', s.threads.set i t'⟩ where
  core := hcore
  fits j u hj := by grind
  closing hclosed hzero := by
    obtain hnew | ⟨hold, hclosed', hzero'⟩ := hclosing hclosed hzero
    · exact ⟨i, t', List.getElem?_set_self (List.getElem?_eq_some_iff.mp hi).1, hnew⟩
    · obtain ⟨j, u, hj, hu⟩ := h.closing hclosed' hzero'
      refine ⟨j, u, ?_, hu⟩
      rw [List.getElem?_set_ne, hj]
      rintro rfl
      rw [hi] at hj
      cases hj
      rw [hold] at hu
      cases hu
  owner j hj := by
    rw [List.length_set]
    obtain rfl | hj := howner j hj
    · exact (List.getElem?_eq_some_iff.mp hi).1
    · exact h.owner j hj

theorem Inv.not_holdsClose (hi : s.threads[i]? = some t) (ht : t.holdsClose = true) {j : ℕ}
    {u : Thread} (hne : j ≠ i) (hj : s.threads[j]? = some u) : u.holdsClose = false := by
  by_contra hu
  have howner := (h.fits j u hj).holds.mp (by simpa using hu)
  rw [(h.fits i t hi).holds.mp ht] at howner
  exact hne (Option.some_inj.mp howner).symm

theorem Inv.closes_eq_one (hi : s.threads[i]? = some (.close .checkAndSet))
    (hclosed : s.shared.state = .closed) : s.shared.closes = 1 := by
  have hle := h.core.atMostOnce
  by_contra hne
  obtain ⟨j, u, hj, hu⟩ := h.closing hclosed (by omega)
  have hholds := holdsClose_of_closing hu
  obtain rfl | hji := eq_or_ne j i
  · rw [hi] at hj
    cases hj
    cases hu
  · rw [h.not_holdsClose hi rfl hji hj] at hholds
    cases hholds

theorem Inv.plain (hi : s.threads[i]? = some t) (ht : t.plain = true) (hk : Keeps s.shared m')
    (ht' : t'.plain = true)
    (hsettled : s.shared.state = .closed → t'.settled = true) : Inv ⟨m', s.threads.set i t'⟩ := by
  refine h.move hi (h.core.of_keeps hk) ((h.fits i t hi).plain ht hk ht' hsettled)
    (fun j u _ hj => (h.fits j u hj).of_keeps hk) (fun hclosed hzero => ?_) fun j hj => ?_
  · exact .inr ⟨closing_of_plain ht, hk.closed.mp hclosed, hk.closes.symm.trans hzero⟩
  · exact .inr (hk.closeMutex.symm.trans hj)

theorem Inv.lock (hi : s.threads[i]? = some (.close .lock)) (hfree : s.shared.closeMutex = none) :
    Inv ⟨{ s.shared with closeMutex := some i }, s.threads.set i (.close .checkAndSet)⟩ := by
  obtain ⟨hunused, hset, hopened, honce⟩ := h.core
  refine h.move hi ⟨hunused, hset, fun ho => ⟨(hopened ho).1, ?_⟩, honce⟩ ?_ (fun j u hne hj => ?_)
    (fun hclosed hzero => .inr ⟨rfl, hclosed, hzero⟩) fun j hj => .inl (Option.some_inj.mp hj).symm
  · exact ⟨(hopened ho).2.1, (hopened ho).2.2, (hopened ho).2.3⟩
  · exact ⟨iff_of_true rfl rfl, fun _ => rfl, nofun, nofun⟩
  · obtain ⟨hholds, hsettled, hclosing, hleaves⟩ := h.fits j u hj
    refine ⟨?_, hsettled, hclosing, hleaves⟩
    rw [hholds, hfree]
    exact iff_of_false nofun fun hij => hne (Option.some_inj.mp hij).symm

theorem Inv.alreadyClosed (hi : s.threads[i]? = some (.close .checkAndSet))
    (hclosed : s.shared.state = .closed) : Inv ⟨s.shared, s.threads.set i (.close .unlock)⟩ := by
  have hone := h.closes_eq_one hi hclosed
  refine h.move hi h.core ⟨(h.fits i _ hi).holds, fun _ => rfl, nofun, fun _ => hone⟩
    (fun j u _ hj => h.fits j u hj) (fun _ hzero => ?_) fun j hj => .inr hj
  rw [hone] at hzero
  cases hzero

theorem Inv.setClosed (hi : s.threads[i]? = some (.close .checkAndSet))
    (hopen : s.shared.state ≠ .closed) (hsettled : ∀ t ∈ s.threads, t.settled = true) :
    Inv ⟨{ s.shared with state := .closed, closedSet := true },
      s.threads.set i (.close .zeroSend)⟩ := by
  have hzero := (h.core.opened hopen).1
  refine h.move hi
    ⟨h.core.unused, iff_of_true rfl rfl, fun hne => absurd rfl hne, hzero.le.trans zero_le_one⟩
    ⟨(h.fits i _ hi).holds, fun _ => rfl, fun _ => ⟨rfl, hzero⟩, nofun⟩ (fun j u _ hj => ?_)
    (fun _ _ => .inl rfl) fun j hj => .inr hj
  have hfits := h.fits j u hj
  exact ⟨hfits.holds, fun _ => hsettled u (List.mem_of_getElem? hj),
    fun hu => absurd (hfits.closing hu).1 hopen, hfits.leaves⟩

theorem Inv.zero (hi : s.threads[i]? = some t) (ht : t.closing = true) (hk : Keeps s.shared m')
    (ht' : t'.closing = true) (hsettled : t'.settled = true)
    (hleaves : t'.leaves = false) : Inv ⟨m', s.threads.set i t'⟩ := by
  have hfits := h.fits i t hi
  refine h.move hi (h.core.of_keeps hk) ⟨?_, fun _ => hsettled, fun _ => ?_, fun hl => ?_⟩
    (fun j u _ hj => (h.fits j u hj).of_keeps hk) (fun _ _ => .inl ht')
    fun j hj => .inr (hk.closeMutex.symm.trans hj)
  · rw [hk.closeMutex, ← hfits.holds]
    exact iff_of_true (holdsClose_of_closing ht') (holdsClose_of_closing ht)
  · exact ⟨hk.closed.mpr (hfits.closing ht).1, hk.closes.trans (hfits.closing ht).2⟩
  · rw [hleaves] at hl
    cases hl

theorem Inv.closeUnderlying (hi : s.threads[i]? = some (.close .underlying)) :
    Inv ⟨{ s.shared with closes := s.shared.closes + 1 }, s.threads.set i (.close .unlock)⟩ := by
  have hfits := h.fits i _ hi
  obtain ⟨hclosed, hzero⟩ := hfits.closing rfl
  have hone : s.shared.closes + 1 = 1 := by rw [hzero]
  refine h.move hi
    ⟨h.core.unused, h.core.closedSet, fun hopen => absurd hclosed hopen, hone.le⟩
    ⟨hfits.holds, fun _ => rfl, nofun, fun _ => hone⟩ (fun j u hne hj => ?_)
    (fun _ h0 => absurd h0 (Nat.succ_ne_zero _)) fun j hj => .inr hj
  have hother := h.fits j u hj
  refine ⟨hother.holds, hother.settled, fun hu => ?_, fun _ => hone⟩
  have hholds := holdsClose_of_closing hu
  rw [h.not_holdsClose hi rfl hne hj] at hholds
  cases hholds

theorem Inv.unlock (hi : s.threads[i]? = some (.close .unlock)) :
    Inv ⟨{ s.shared with closeMutex := none }, s.threads.set i (.returned .close)⟩ := by
  obtain ⟨hunused, hset, hopened, honce⟩ := h.core
  have hone := (h.fits i _ hi).leaves rfl
  refine h.move hi ⟨hunused, hset, fun ho => ⟨(hopened ho).1, ?_⟩, honce⟩
    ⟨iff_of_false nofun nofun, fun _ => rfl, nofun, fun _ => hone⟩ (fun j u hne hj => ?_)
    (fun _ hzero => ?_) nofun
  · exact ⟨(hopened ho).2.1, (hopened ho).2.2, (hopened ho).2.3⟩
  · have hother := h.fits j u hj
    refine ⟨?_, hother.settled, hother.closing, hother.leaves⟩
    rw [h.not_holdsClose hi rfl hne hj]
    exact iff_of_false nofun nofun
  · rw [hone] at hzero
    cases hzero

theorem Inv.close {point : ClosePoint} (hi : s.threads[i]? = some (.close point))
    (horderly : point = .checkAndSet → s.shared.state ≠ .closed → ∀ t ∈ s.threads, t.settled = true)
    (hadvance : advanceClose i s.shared point = some (t', m')) : Inv ⟨m', s.threads.set i t'⟩ := by
  cases point with
  | lock =>
    dsimp only [advanceClose] at hadvance
    split_ifs at hadvance with hfree
    cases hadvance
    exact h.lock hi hfree
  | checkAndSet =>
    dsimp only [advanceClose] at hadvance
    split_ifs at hadvance with hclosed
    · cases hadvance
      exact h.alreadyClosed hi hclosed
    · cases hadvance
      exact h.setClosed hi hclosed (horderly rfl hclosed)
  | zeroSend | zeroRecv | zeroStatic =>
    cases hadvance
    have hclosed := ((h.fits i _ hi).closing rfl).1
    exact h.zero hi rfl ⟨rfl, rfl, rfl, Iff.rfl, fun hopen => absurd hclosed hopen, h.core.unused⟩
      rfl rfl rfl
  | underlying =>
    cases hadvance
    exact h.closeUnderlying hi
  | unlock =>
    cases hadvance
    exact h.unlock hi

end

theorem fits_ofOp (howner : m.closeMutex ≠ some i)
    (horderly : op.setsState = true → m.state ≠ .closed) : Fits m i (.ofOp op) where
  holds := by cases op <;> exact iff_of_false nofun howner
  settled hclosed := by cases op <;> first | rfl | exact absurd hclosed (horderly rfl)
  closing hclosing := by cases op <;> cases hclosing
  leaves hleaves := by cases op <;> cases hleaves

theorem Inv.call (h : Inv s) (horderly : op.setsState = true → s.shared.state ≠ .closed) :
    Inv { s with threads := s.threads ++ [.ofOp op] } where
  core := h.core
  fits j u hj := by
    rw [List.getElem?_append] at hj
    split_ifs at hj with hlt
    · exact h.fits j u hj
    · rw [List.getElem?_singleton] at hj
      split_ifs at hj
      cases hj
      exact fits_ofOp (fun howner => hlt (h.owner j howner)) horderly
  closing hclosed hzero := by
    obtain ⟨j, u, hj, hu⟩ := h.closing hclosed hzero
    refine ⟨j, u, ?_, hu⟩
    rw [List.getElem?_append_left (List.getElem?_eq_some_iff.mp hj).1, hj]
  owner j hj := by
    rw [List.length_append]
    exact (h.owner j hj).trans_le (Nat.le_add_right _ _)

theorem Inv.step (h : Inv s) {event : Event} (horderly : Orderly s event) :
    Inv (step s event) := by
  cases event with
  | call op => exact h.call horderly
  | step i choice =>
    unfold Lifecycle.step
    dsimp only
    split
    · exact h
    next t hi =>
      split
      · exact h
      next t' m' hadvance =>
        cases hplain : t.plain with
        | true =>
          obtain ⟨hk, ht', hsettled⟩ :=
            plainStep_advance h.core (h.fits i t hi) hplain choice t' m' hadvance
          exact h.plain hi hplain hk ht' hsettled
        | false =>
          cases t with
          | close point =>
            refine h.close hi (fun hpoint => horderly ?_) hadvance
            rw [hi, hpoint]
          | returned op => cases hadvance
          | _ => cases hplain

theorem inv_new (hasKey : Bool) : Inv (new hasKey) where
  core := by
    refine ⟨rfl, iff_of_false nofun nofun, fun _ => ⟨rfl, ?_, nofun, nofun⟩, Nat.zero_le 1⟩
    cases hasKey <;> exact nofun
  fits := nofun
  closing := nofun
  owner := nofun

theorem Inv.once (h : Inv s) : Once s where
  absorbing := h.core.closedSet.mp
  atMostOnce := h.core.atMostOnce
  returned hmem := by
    obtain ⟨i, hi⟩ := List.mem_iff_getElem?.mp hmem
    exact (h.fits i _ hi).leaves rfl
  unused := h.core.unused

/-- **Closed for good.** In every interleaving in which no call that sets the state overlaps with
the moment at which `Close` sets the closed state, or follows it, the closed state stays, the
underlying connection is closed once and no key is used after it was overwritten. -/
theorem once_exec (hasKey : Bool) {events : List Event}
    (horderly : Always step Orderly (new hasKey) events) :
    Once (exec step (new hasKey) events) :=
  (exec_induct (I := Inv) (fun _ _ h ho => h.step ho) (inv_new hasKey) horderly).once

end

instance : (s : System) → (event : Event) → Decidable (Orderly s event)
  | s, .call op => inferInstanceAs (Decidable (op.setsState = true → s.shared.state ≠ .closed))
  | s, .step i _ => inferInstanceAs (Decidable (s.threads[i]? = some (.close .checkAndSet) →
      s.shared.state ≠ .closed → ∀ t ∈ s.threads, t.settled = true))

/-- `k` steps of call `i` at which nothing is to be decided. -/
def steps (i k : ℕ) : List Event := List.replicate k (.step i (.succeeds false false false))

/-- A handshake of two messages, a `Write`, two calls of `Close` that overlap, and a `Read`. -/
def closedTwice : List Event :=
  .call .handshake :: steps 0 3 ++
    [.step 0 (.succeeds true false false), .step 0 (.completes true true true)] ++ steps 0 3 ++
  .call (.io .write) :: steps 1 6 ++
  .call .close :: .call .close :: steps 2 4 ++ steps 3 1 ++ steps 2 3 ++ steps 3 3 ++
  .call (.io .read) :: steps 4 1

theorem once_exec_closedTwice :
    Once (exec step (new true) closedTwice) ∧
      (exec step (new true) closedTwice).threads =
        [.returned .handshake, .returned (.io .write), .returned .close, .returned .close,
          .returned (.io .read)] :=
  ⟨once_exec true (by decide), by decide⟩

/-- `Close` and, after it has returned, `StartHandshake`. -/
def reopened : List Event := .call .close :: steps 0 7 ++ .call .startHandshake :: steps 1 1

/-- The connection is not closed any more, and another `Close` closes the underlying connection
again. -/
theorem not_once_reopened :
    (exec step (new true) reopened).shared.closedSet = true ∧
    (exec step (new true) reopened).shared.state = .handshaking ∧
    (exec step (new true) (reopened ++ .call .close :: steps 2 7)).shared.closes = 2 ∧
    ¬ Once (exec step (new true) reopened) := by
  refine ⟨by decide, by decide, by decide, fun honce => ?_⟩
  exact absurd (honce.absorbing (by decide)) (by decide)

end GoNoise.Conn.Lifecycle
