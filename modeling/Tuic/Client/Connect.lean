import Tuic.Server.Handlers

/-! # A `Connect` request of the client

`client/src/socks5/connect.rs` and `handle_connect` of `client/src/relay/task.rs`: a SOCKS5
`CONNECT` from its request to its end. The request waits for a connection, opens a bidirectional
stream, writes the header of a `Connect`, and reads the response; the application gets one reply,
and after a `Succeeded` its bytes and those on the stream are copied both ways.

`connectSystem` is one such request with any server: whatever arrives on the stream, in pieces of
any size, and whatever fails. `sound_of_reachable` says, for every place of the request, what was
written to the stream and to the application. -/

namespace Tuic.Client

open ByteCodec Transition

instance (addr : Address) : Decidable addr.Canonical := inferInstanceAs (Decidable (_ ∧ _))

/-! ## The request -/

/-- The replies of SOCKS5 that a `CONNECT` is answered with. -/
inductive Socks5.Reply where
  /-- `Reply::Succeeded` -/
  | succeeded
  /-- `Reply::NetworkUnreachable` -/
  | networkUnreachable
  deriving DecidableEq, Repr

/-- Where a `CONNECT` stands. -/
inductive ConnectPc where
  /-- Before `peer_addr()` and the request to the relay. -/
  | start
  /-- The request waits for a connection, for as long as the time-out allows. -/
  | lock
  /-- Before a bidirectional stream is open. -/
  | getBiStream
  /-- Before the header of the `Connect` is written. -/
  | writeTo
  /-- Before the response is read. -/
  | readFrom
  /-- The stream is being finished after anything but a `Response(true)`. -/
  | finish
  /-- Before the application gets its reply. -/
  | reply (r : Socks5.Reply)
  /-- In `copy_bidirectional`, which has a buffer for each direction. -/
  | tunnel
  /-- Before the SOCKS5 connection is shut down. -/
  | shutdown
  /-- Returned. -/
  | ended
  /-- Returned with an error of the SOCKS5 connection, before or under the reply. -/
  | aborted
  deriving DecidableEq, Repr

/-- A `CONNECT` with its stream and its SOCKS5 connection. The address comes from a SOCKS5 request,
in which a domain has at most 255 bytes and an IPv6 address no scope. -/
structure Connect where
  /-- The target. -/
  addr : Address
  /-- It is one a SOCKS5 request can carry. -/
  canonical : addr.Canonical
  /-- Where the request stands. -/
  pc : ConnectPc
  /-- The bytes written to the stream so far. -/
  sent : Bytes
  /-- Whether the sending half of the stream is finished. -/
  finished : Bool
  /-- The receiving half of the stream. -/
  recv : Server.RecvStream
  /-- The response, once one was decoded. -/
  resp : Option Command
  /-- What the application sent before it got its reply. -/
  early : Bytes
  /-- What the application sent after it got its reply. -/
  late : Bytes
  /-- How many bytes of the application were read. -/
  taken : Nat
  /-- The replies the application got. -/
  replies : List Socks5.Reply
  /-- The bytes the application got after its reply. -/
  toApp : Bytes
  /-- What the copy loop has read of the application and not written to the stream. -/
  up : Bytes
  /-- What the copy loop has read of the stream and not written to the application. -/
  down : Bytes

/-- A step of a `CONNECT`. -/
inductive ConnectAction where
  /-- The operation the request waits for succeeds. -/
  | go
  /-- It fails; a write may have got `n` bytes through. -/
  | fail (n : Nat)
  /-- The copy loop reads the next `n` bytes of the application. -/
  | readApp (n : Nat)
  /-- The copy loop writes `n` of those to the stream. -/
  | writeStream (n : Nat)
  /-- The copy loop reads the next `n` bytes of the stream. -/
  | readStream (n : Nat)
  /-- The copy loop writes `n` of those to the application. -/
  | writeApp (n : Nat)
  /-- The copy loop finds that the application has sent everything, and finishes the stream. -/
  | eof
  /-- The application sends bytes. -/
  | app (bytes : Bytes)
  /-- Something happens on the receiving half of the stream. -/
  | stream (ev : Server.StreamEvent)

/-- Whether something happens on the stream. -/
def ConnectAction.isStream : ConnectAction → Bool
  | .stream _ => true
  | .go | .fail _ | .readApp _ | .writeStream _ | .readStream _ | .writeApp _ | .eof
  | .app _ => false

namespace Connect

/-- A `CONNECT` that has just come in. -/
def new (addr : Address) (canonical : addr.Canonical) : Connect :=
  ⟨addr, canonical, .start, [], false, ⟨[], 0, .receiving⟩, none, [], [], 0, [], [], [], []⟩

/-- The header of the `Connect`. -/
def header (c : Connect) : Bytes := (Command.connect c.addr).writeToBuf

/-- What the application has sent behind its request. -/
def fromApp (c : Connect) : Bytes := c.early ++ c.late

/-- `read_from` on the bytes that have arrived: it waits while they end inside the response and more
can come. -/
def readResponse (c : Connect) : Option Connect :=
  match Command.readFrom c.recv.data with
  | .ok (cmd, rest) =>
    let c' := { c with
      recv := c.recv.advance (c.recv.data.length - rest.length)
      resp := some cmd }
    if cmd = .response true then some { c' with pc := .reply .succeeded }
    else some { c' with pc := .finish, finished := true }
  | .error (.io err) =>
    if err.kind = .unexpectedEof ∧ c.recv.status = .receiving then none
    else some { c with pc := .finish, finished := true }
  -- the task is gone, and with it the sender that the reply waits for
  | .error .panic => some { c with pc := .reply .networkUnreachable, finished := true }

/-- One step of a `CONNECT`. Whatever ends the relay without a stream drops the sender the reply
waits for, and the reply is `NetworkUnreachable`. -/
def step (c : Connect) : ConnectAction → Option Connect
  | .go =>
    match c.pc with
    | .start => some { c with pc := .lock }
    | .lock => some { c with pc := .getBiStream }
    | .getBiStream => some { c with pc := .writeTo }
    | .writeTo => some { c with pc := .readFrom, sent := c.header }
    | .readFrom => c.readResponse
    | .finish => some { c with pc := .reply .networkUnreachable }
    | .reply .succeeded => some { c with pc := .tunnel, replies := c.replies ++ [.succeeded] }
    | .reply .networkUnreachable =>
      some { c with pc := .shutdown, replies := c.replies ++ [.networkUnreachable] }
    -- everything that was read is written; the stream is dropped, which finishes it
    | .tunnel =>
      if c.up = [] ∧ c.down = [] then some { c with pc := .ended, finished := true } else none
    | .shutdown => some { c with pc := .ended }
    | .ended | .aborted => none
  | .fail n =>
    match c.pc with
    | .start => some { c with pc := .aborted }
    | .lock => some { c with pc := .reply .networkUnreachable }
    | .getBiStream => some { c with pc := .reply .networkUnreachable }
    | .writeTo => some { c with pc := .reply .networkUnreachable, sent := c.header.take n }
    | .readFrom =>
      if c.recv.status = .failed then some { c with pc := .finish, finished := true } else none
    | .finish => some { c with pc := .reply .networkUnreachable }
    | .reply .succeeded => some { c with pc := .aborted, finished := true }
    | .reply .networkUnreachable => some { c with pc := .aborted }
    -- what the copy loop holds is lost
    | .tunnel => some { c with pc := .ended, finished := true }
    -- `let _ = conn.shutdown().await`
    | .shutdown => some { c with pc := .ended }
    | .ended | .aborted => none
  | .readApp n =>
    if c.pc = .tunnel ∧ c.finished = false ∧ c.taken + n ≤ c.fromApp.length then
      some { c with up := c.up ++ (c.fromApp.drop c.taken).take n, taken := c.taken + n }
    else none
  | .writeStream n =>
    if c.pc = .tunnel ∧ c.finished = false ∧ n ≤ c.up.length then
      some { c with sent := c.sent ++ c.up.take n, up := c.up.drop n }
    else none
  | .readStream n =>
    if c.pc = .tunnel ∧ n ≤ c.recv.unread.length then
      some { c with down := c.down ++ c.recv.unread.take n, recv := c.recv.advance n }
    else none
  | .writeApp n =>
    if c.pc = .tunnel ∧ n ≤ c.down.length then
      some { c with toApp := c.toApp ++ c.down.take n, down := c.down.drop n }
    else none
  -- everything that was read is written before the stream is finished
  | .eof => if c.pc = .tunnel ∧ c.up = [] then some { c with finished := true } else none
  | .app bytes =>
    if c.replies = [] then some { c with early := c.early ++ bytes }
    else some { c with late := c.late ++ bytes }
  | .stream ev => (c.recv.on ev).map fun recv => { c with recv := recv }

end Connect

/-- A `CONNECT` to an address, with any server. -/
def connectSystem (addr : Address) (canonical : addr.Canonical) : System Connect ConnectAction :=
  ⟨.new addr canonical, Connect.step⟩

namespace Connect

/-! ## What a step does -/

/-- The steps of a `CONNECT`, one case each. -/
inductive Step (c : Connect) : Connect → Prop where
  /-- The request goes on to its stream. -/
  | goesOn (pc : ConnectPc)
      (hpc : c.pc = .start ∧ pc = .lock ∨ c.pc = .lock ∧ pc = .getBiStream ∨
        c.pc = .getBiStream ∧ pc = .writeTo) : Step c { c with pc := pc }
  /-- The SOCKS5 connection fails before the reply. -/
  | aborts (finished : Bool)
      (hpc : c.pc = .start ∧ finished = c.finished ∨
        c.pc = .reply .networkUnreachable ∧ finished = c.finished ∨
        c.pc = .reply .succeeded ∧ finished = true) :
      Step c { c with pc := .aborted, finished := finished }
  /-- There is no connection in time, or no stream. -/
  | noStream (hpc : c.pc = .lock ∨ c.pc = .getBiStream) :
      Step c { c with pc := .reply .networkUnreachable }
  /-- The header is written. -/
  | writes (hpc : c.pc = .writeTo) : Step c { c with pc := .readFrom, sent := c.header }
  /-- The stream fails under the header. -/
  | cut (n : Nat) (hpc : c.pc = .writeTo) :
      Step c { c with pc := .reply .networkUnreachable, sent := c.header.take n }
  /-- A `Response(true)` is decoded. -/
  | accepted (rest : Bytes) (hpc : c.pc = .readFrom)
      (hread : Command.readFrom c.recv.data = .ok (.response true, rest)) :
      Step c { c with
        recv := c.recv.advance (c.recv.data.length - rest.length)
        resp := some (.response true)
        pc := .reply .succeeded }
  /-- Another command is decoded. -/
  | refused (cmd : Command) (rest : Bytes) (hpc : c.pc = .readFrom) (hne : cmd ≠ .response true)
      (hread : Command.readFrom c.recv.data = .ok (cmd, rest)) :
      Step c { c with
        recv := c.recv.advance (c.recv.data.length - rest.length)
        resp := some cmd
        pc := .finish
        finished := true }
  /-- No command can be decoded. -/
  | unreadable (hpc : c.pc = .readFrom) : Step c { c with pc := .finish, finished := true }
  /-- The stream is finished, or fails before. -/
  | finishes (hpc : c.pc = .finish) : Step c { c with pc := .reply .networkUnreachable }
  /-- The application gets `Succeeded`. -/
  | succeeds (hpc : c.pc = .reply .succeeded) :
      Step c { c with pc := .tunnel, replies := c.replies ++ [.succeeded] }
  /-- The application gets `NetworkUnreachable`. -/
  | fails (hpc : c.pc = .reply .networkUnreachable) :
      Step c { c with pc := .shutdown, replies := c.replies ++ [.networkUnreachable] }
  /-- The copy loop reads bytes of the application. -/
  | readApp (n : Nat) (hpc : c.pc = .tunnel) (hfinished : c.finished = false)
      (hn : c.taken + n ≤ c.fromApp.length) :
      Step c { c with up := c.up ++ (c.fromApp.drop c.taken).take n, taken := c.taken + n }
  /-- The copy loop writes such bytes to the stream. -/
  | writeStream (n : Nat) (hpc : c.pc = .tunnel) (hfinished : c.finished = false)
      (hn : n ≤ c.up.length) :
      Step c { c with sent := c.sent ++ c.up.take n, up := c.up.drop n }
  /-- The copy loop reads bytes of the stream. -/
  | readStream (n : Nat) (hpc : c.pc = .tunnel) (hn : n ≤ c.recv.unread.length) :
      Step c { c with down := c.down ++ c.recv.unread.take n, recv := c.recv.advance n }
  /-- The copy loop writes such bytes to the application. -/
  | writeApp (n : Nat) (hpc : c.pc = .tunnel) (hn : n ≤ c.down.length) :
      Step c { c with toApp := c.toApp ++ c.down.take n, down := c.down.drop n }
  /-- The stream is finished behind the last byte of the application. -/
  | eof (hpc : c.pc = .tunnel) (hup : c.up = []) : Step c { c with finished := true }
  /-- The copy loop ends. -/
  | tunnelEnds (hpc : c.pc = .tunnel) : Step c { c with pc := .ended, finished := true }
  /-- The request ends after a `NetworkUnreachable`. -/
  | ends (hpc : c.pc = .shutdown) : Step c { c with pc := .ended }
  /-- The application sends bytes before its reply. -/
  | early (bytes : Bytes) (hreplies : c.replies = []) : Step c { c with early := c.early ++ bytes }
  /-- The application sends bytes after its reply. -/
  | late (bytes : Bytes) (hreplies : c.replies ≠ []) : Step c { c with late := c.late ++ bytes }
  /-- Something happens on the stream. -/
  | stream (ev : Server.StreamEvent) (recv : Server.RecvStream) (hon : c.recv.on ev = some recv) :
      Step c { c with recv := recv }

variable {c c' : Connect} {a : ConnectAction}

/-- Reading the response is one of these. -/
theorem readResponse_cases (hpc : c.pc = .readFrom) (h : c.readResponse = some c') :
    c.Step c' := by
  unfold readResponse at h
  split at h
  · rename_i cmd rest hread
    split at h
    · rename_i hcmd
      cases h
      subst hcmd
      exact .accepted rest hpc hread
    · rename_i hne
      cases h
      exact .refused cmd rest hpc hne hread
  · split at h
    · cases h
    · cases h
      exact .unreadable hpc
  · rename_i hread
    exact absurd hread (Command.noPanic_readFrom _)

/-- What goes well is one of these. -/
theorem go_cases (h : c.step .go = some c') : c.Step c' := by
  simp only [step] at h
  split at h
  · rename_i hpc
    cases h
    exact .goesOn .lock (Or.inl ⟨hpc, rfl⟩)
  · rename_i hpc
    cases h
    exact .goesOn .getBiStream (Or.inr (Or.inl ⟨hpc, rfl⟩))
  · rename_i hpc
    cases h
    exact .goesOn .writeTo (Or.inr (Or.inr ⟨hpc, rfl⟩))
  · rename_i hpc
    cases h
    exact .writes hpc
  · rename_i hpc
    exact readResponse_cases hpc h
  · rename_i hpc
    cases h
    exact .finishes hpc
  · rename_i hpc
    cases h
    exact .succeeds hpc
  · rename_i hpc
    cases h
    exact .fails hpc
  · rename_i hpc
    split at h
    · cases h
      exact .tunnelEnds hpc
    · cases h
  · rename_i hpc
    cases h
    exact .ends hpc
  · cases h
  · cases h

/-- What fails is one of these. -/
theorem fail_cases {n : Nat} (h : c.step (.fail n) = some c') : c.Step c' := by
  simp only [step] at h
  split at h
  · rename_i hpc
    cases h
    exact .aborts _ (Or.inl ⟨hpc, rfl⟩)
  · rename_i hpc
    cases h
    exact .noStream (Or.inl hpc)
  · rename_i hpc
    cases h
    exact .noStream (Or.inr hpc)
  · rename_i hpc
    cases h
    exact .cut n hpc
  · rename_i hpc
    split at h
    · cases h
      exact .unreadable hpc
    · cases h
  · rename_i hpc
    cases h
    exact .finishes hpc
  · rename_i hpc
    cases h
    exact .aborts true (Or.inr (Or.inr ⟨hpc, rfl⟩))
  · rename_i hpc
    cases h
    exact .aborts _ (Or.inr (Or.inl ⟨hpc, rfl⟩))
  · rename_i hpc
    cases h
    exact .tunnelEnds hpc
  · rename_i hpc
    cases h
    exact .ends hpc
  · cases h
  · cases h

/-- Every step of a `CONNECT` is one of these. -/
theorem step_cases (h : c.step a = some c') : c.Step c' := by
  cases a with
  | go => exact go_cases h
  | fail n => exact fail_cases h
  | readApp n =>
    simp only [step] at h
    split at h
    · rename_i hguard
      cases h
      exact .readApp n hguard.1 hguard.2.1 hguard.2.2
    · cases h
  | writeStream n =>
    simp only [step] at h
    split at h
    · rename_i hguard
      cases h
      exact .writeStream n hguard.1 hguard.2.1 hguard.2.2
    · cases h
  | readStream n =>
    simp only [step] at h
    split at h
    · rename_i hguard
      cases h
      exact .readStream n hguard.1 hguard.2
    · cases h
  | writeApp n =>
    simp only [step] at h
    split at h
    · rename_i hguard
      cases h
      exact .writeApp n hguard.1 hguard.2
    · cases h
  | eof =>
    simp only [step] at h
    split at h
    · rename_i hguard
      cases h
      exact .eof hguard.1 hguard.2
    · cases h
  | app bytes =>
    simp only [step] at h
    split at h
    · rename_i hreplies
      cases h
      exact .early bytes hreplies
    · rename_i hreplies
      cases h
      exact .late bytes hreplies
  | stream ev =>
    obtain ⟨recv, hon, rfl⟩ := Option.map_eq_some_iff.mp h
    exact .stream ev recv hon

/-- A `CONNECT` gets nothing on its stream but by a stream event. -/
theorem recv_data_of_step (ha : ¬ a.isStream = true) (h : c.step a = some c') :
    c'.recv.data = c.recv.data := by
  cases a with
  | stream ev => exact absurd rfl ha
  | go =>
    simp only [step] at h
    split at h
    case h_5 =>
      unfold readResponse at h
      split at h
      · split at h <;> cases h <;> rfl
      · split at h <;> cases h
        rfl
      · cases h
        rfl
    all_goals try split at h
    all_goals cases h
    all_goals rfl
  | fail n =>
    simp only [step] at h
    split at h
    all_goals try split at h
    all_goals cases h
    all_goals rfl
  | readApp n =>
    simp only [step] at h
    split at h <;> cases h
    rfl
  | writeStream n =>
    simp only [step] at h
    split at h <;> cases h
    rfl
  | readStream n =>
    simp only [step] at h
    split at h <;> cases h
    rfl
  | writeApp n =>
    simp only [step] at h
    split at h <;> cases h
    rfl
  | eof =>
    simp only [step] at h
    split at h <;> cases h
    rfl
  | app bytes =>
    simp only [step] at h
    split at h <;> cases h <;> rfl

/-! ## What a request has done, where it stands -/

/-- **What a request has relayed**, wherever it stands: to the stream, the header and then bytes of
the application; to the application, bytes of the stream behind a `Response(true)`. -/
structure Relayed (c : Connect) : Prop where
  /-- To the stream. -/
  sent : c.sent <+: c.header ++ c.fromApp
  /-- A stream is finished behind the header. -/
  finished : c.finished = true → c.header <+: c.sent
  /-- The response is the command the stream starts with. -/
  resp : ∀ cmd, c.resp = some cmd → Server.Carries c.recv.data cmd
  /-- To the application. -/
  toApp : c.toApp ≠ [] → c.resp = some (.response true) ∧
    c.toApp <+: c.recv.data.drop (Command.response true).serializedLen
  /-- What was sent before the reply is not counted as sent after it. -/
  late : c.replies = [] → c.late = []
  /-- There is no copy loop before the reply. -/
  held : c.replies = [] → c.up = [] ∧ c.down = []

/-- Nothing is read, and nothing was copied either way. -/
def Fresh (c : Connect) : Prop :=
  c.replies = [] ∧ c.resp = none ∧ c.taken = 0 ∧ c.toApp = [] ∧ c.recv.pos = 0

/-- What a request has done in its copy loop: all it has read, either way, was written to the other
side or is held. -/
structure Copies (c : Connect) : Prop where
  /-- The application was told that it succeeded. -/
  replies : c.replies = [.succeeded]
  /-- The server has accepted the request. -/
  resp : c.resp = some (.response true)
  /-- The header is on the stream. -/
  header : c.header <+: c.sent
  /-- Behind it are bytes of the application. -/
  sent : c.sent ++ c.up = c.header ++ c.fromApp.take c.taken
  /-- They were read as they came. -/
  taken : c.taken ≤ c.fromApp.length
  /-- The stream was read from behind the response on. -/
  behind : (Command.response true).serializedLen ≤ c.recv.pos
  /-- It was read as far as it has arrived. -/
  pos : c.recv.pos ≤ c.recv.data.length
  /-- Its bytes went to the application. -/
  toApp : c.toApp ++ c.down =
    (c.recv.data.take c.recv.pos).drop (Command.response true).serializedLen

/-- What a request has done, where it stands. -/
def Stands (c : Connect) : Prop :=
  match c.pc with
  | .start | .lock | .getBiStream | .writeTo => c.Fresh ∧ c.sent = [] ∧ c.finished = false
  | .readFrom => c.Fresh ∧ c.sent = c.header ∧ c.finished = false
  | .finish => c.replies = [] ∧ c.toApp = [] ∧ c.resp ≠ some (.response true)
  | .reply .networkUnreachable => c.replies = [] ∧ c.toApp = [] ∧ c.resp ≠ some (.response true)
  | .reply .succeeded => c.replies = [] ∧ c.resp = some (.response true) ∧ c.sent = c.header ∧
      c.taken = 0 ∧ c.toApp = [] ∧ c.recv.pos = (Command.response true).serializedLen
  | .tunnel => c.Copies
  | .shutdown => c.replies = [.networkUnreachable] ∧ c.resp ≠ some (.response true)
  | .ended => c.replies = [.succeeded] ∧ c.resp = some (.response true) ∨
      c.replies = [.networkUnreachable] ∧ c.resp ≠ some (.response true)
  | .aborted => c.replies = []

/-- What holds of a request. -/
def Sound (c : Connect) : Prop := c.Relayed ∧ c.Stands

variable (hr : c.Relayed)

include hr

/-- The application sends bytes. -/
theorem Relayed.app {early late : Bytes} (hreplies : c.replies = [] → late = [])
    (h : c.fromApp <+: early ++ late) :
    ({ c with early := early, late := late } : Connect).Relayed :=
  ⟨hr.sent.trans ((List.prefix_append_right_inj _).mpr h), hr.finished, hr.resp, hr.toApp, hreplies,
    hr.held⟩

/-- Something happens on the stream. -/
theorem Relayed.stream {ev : Server.StreamEvent} {recv : Server.RecvStream}
    (hon : c.recv.on ev = some recv) : ({ c with recv := recv } : Connect).Relayed := by
  obtain ⟨-, -, x, hx⟩ := Server.RecvStream.on_cases hon
  refine ⟨hr.sent, hr.finished, fun cmd hcmd => ?_, fun hne => ?_, hr.late, hr.held⟩
  · show Server.Carries recv.data cmd
    rw [hx]
    exact (hr.resp cmd hcmd).append x
  · obtain ⟨hresp, hprefix⟩ := hr.toApp hne
    refine ⟨hresp, hprefix.trans ?_⟩
    show _ <+: recv.data.drop _
    rw [hx, List.drop_append_of_le_length (hr.resp _ hresp).serializedLen_le]
    exact List.prefix_append _ _

/-- A request that only moves has relayed what it had. -/
theorem Relayed.moves (pc : ConnectPc) : ({ c with pc := pc } : Connect).Relayed :=
  ⟨hr.sent, hr.finished, hr.resp, hr.toApp, hr.late, hr.held⟩

/-- The stream may be finished once the header is on it. -/
theorem Relayed.finishes (hheader : c.header <+: c.sent) (pc : ConnectPc) :
    ({ c with pc := pc, finished := true } : Connect).Relayed :=
  ⟨hr.sent, fun _ => hheader, hr.resp, hr.toApp, hr.late, hr.held⟩

/-- The application gets a reply. -/
theorem Relayed.reply (r : Socks5.Reply) (pc : ConnectPc) :
    ({ c with pc := pc, replies := c.replies ++ [r] } : Connect).Relayed :=
  have hne : c.replies ++ [r] ≠ [] := List.append_ne_nil_of_right_ne_nil _ (List.cons_ne_nil _ _)
  ⟨hr.sent, hr.finished, hr.resp, hr.toApp, fun h => absurd h hne, fun h => absurd h hne⟩

/-- What is read of a stream changes nothing that was relayed, and a response is the command the
stream starts with. -/
theorem Relayed.decodes {cmd : Command} {rest : Bytes} (htoApp : c.toApp = [])
    (hread : Command.readFrom c.recv.data = .ok (cmd, rest)) (n : Nat) (pc : ConnectPc)
    {finished : Bool} (hfinished : finished = true → c.header <+: c.sent) :
    ({ c with
      recv := c.recv.advance n
      resp := some cmd
      pc := pc
      finished := finished } : Connect).Relayed := by
  refine ⟨hr.sent, hfinished, fun cmd' hcmd => ?_, fun hne => absurd htoApp hne, hr.late, hr.held⟩
  cases hcmd
  exact ⟨rest, hread⟩

omit hr

/-- More bytes of the application leave a request where it is. -/
theorem Stands.app (hs : c.Stands) {early late : Bytes} (h : c.fromApp <+: early ++ late) :
    ({ c with early := early, late := late } : Connect).Stands := by
  unfold Stands at hs ⊢
  cases hpc : c.pc with
  | tunnel =>
    simp only [hpc] at hs ⊢
    -- the bytes that were taken are still the first
    obtain ⟨x, hx⟩ := h
    refine ⟨hs.replies, hs.resp, hs.header, ?_, ?_, hs.behind, hs.pos, hs.toApp⟩
    · show c.sent ++ c.up = c.header ++ (early ++ late).take c.taken
      rw [hs.sent, ← hx, List.take_append_of_le_length hs.taken]
    · show c.taken ≤ (early ++ late).length
      rw [← hx, List.length_append]
      exact Nat.le_add_right_of_le hs.taken
  | reply r => cases r <;> simp only [hpc] at hs ⊢ <;> exact hs
  | _ => simp only [hpc] at hs ⊢; exact hs

/-- What happens on its stream leaves a request where it is. -/
theorem Stands.stream (hs : c.Stands) {ev : Server.StreamEvent} {recv : Server.RecvStream}
    (hon : c.recv.on ev = some recv) : ({ c with recv := recv } : Connect).Stands := by
  obtain ⟨-, hpos, x, hx⟩ := Server.RecvStream.on_cases hon
  have hfresh : c.Fresh → ({ c with recv := recv } : Connect).Fresh :=
    fun ⟨hreplies, hresp, htaken, htoApp, hp⟩ => ⟨hreplies, hresp, htaken, htoApp, hpos.trans hp⟩
  unfold Stands at hs ⊢
  cases hpc : c.pc with
  | tunnel =>
    simp only [hpc] at hs ⊢
    refine ⟨hs.replies, hs.resp, hs.header, hs.sent, hs.taken, hpos ▸ hs.behind, ?_, ?_⟩
    · rw [hpos, hx, List.length_append]
      exact Nat.le_add_right_of_le hs.pos
    · rw [hpos, hx, List.take_append_of_le_length hs.pos]
      exact hs.toApp
  | reply r =>
    cases r with
    | succeeded =>
      simp only [hpc] at hs ⊢
      obtain ⟨hreplies, hresp, hsent, htaken, htoApp, hp⟩ := hs
      exact ⟨hreplies, hresp, hsent, htaken, htoApp, hpos.trans hp⟩
    | networkUnreachable =>
      simp only [hpc] at hs ⊢
      exact hs
  | start => simp only [hpc] at hs ⊢; exact ⟨hfresh hs.1, hs.2⟩
  | lock => simp only [hpc] at hs ⊢; exact ⟨hfresh hs.1, hs.2⟩
  | getBiStream => simp only [hpc] at hs ⊢; exact ⟨hfresh hs.1, hs.2⟩
  | writeTo => simp only [hpc] at hs ⊢; exact ⟨hfresh hs.1, hs.2⟩
  | readFrom => simp only [hpc] at hs ⊢; exact ⟨hfresh hs.1, hs.2⟩
  | finish => simp only [hpc] at hs ⊢; exact hs
  | shutdown => simp only [hpc] at hs ⊢; exact hs
  | ended => simp only [hpc] at hs ⊢; exact hs
  | aborted => simp only [hpc] at hs ⊢; exact hs

/-- A request without a response has no `Response(true)`. -/
theorem Fresh.resp_ne (h : c.Fresh) : c.resp ≠ some (.response true) := by
  rw [h.2.1]
  exact (Option.some_ne_none _).symm

/-- Where a request stands in the tunnel. -/
theorem Stands.tunnel (hs : c.Stands) (hpc : c.pc = .tunnel) : c.Copies := by
  unfold Stands at hs
  rw [hpc] at hs
  exact hs

/-- What a request in the tunnel has done is where it stands. -/
theorem Copies.stands (h : c.Copies) (hpc : c.pc = .tunnel) : c.Stands := by
  unfold Stands
  rw [hpc]
  exact h

/-- The header is on the stream from where the response is read. -/
theorem Stands.header_sent (hs : c.Stands)
    (hpc : c.pc = .readFrom ∨ c.pc = .reply .succeeded ∨ c.pc = .tunnel) :
    c.header <+: c.sent := by
  unfold Stands at hs
  rcases hpc with hpc | hpc | hpc <;> rw [hpc] at hs
  · rw [hs.2.1]
  · rw [hs.2.2.1]
  · exact hs.header

/-- A request in the tunnel has told the application so. -/
theorem Copies.replies_ne (h : c.Copies) : c.replies ≠ [] := by
  rw [h.replies]
  exact List.cons_ne_nil _ _

/-- The copy loop reads bytes of the application. -/
theorem Sound.readApp (h : c.Sound) (hpc : c.pc = .tunnel) {n : Nat}
    (hn : c.taken + n ≤ c.fromApp.length) :
    ({ c with up := c.up ++ (c.fromApp.drop c.taken).take n, taken := c.taken + n } :
      Connect).Sound := by
  obtain ⟨hr, hs⟩ := h
  have ht := hs.tunnel hpc
  refine ⟨⟨hr.sent, hr.finished, hr.resp, hr.toApp, hr.late, fun h => absurd h ht.replies_ne⟩,
    Copies.stands ⟨ht.replies, ht.resp, ht.header, ?_, hn, ht.behind, ht.pos, ht.toApp⟩ hpc⟩
  show c.sent ++ (c.up ++ _) = c.header ++ c.fromApp.take (c.taken + n)
  rw [← List.append_assoc, ht.sent, List.append_assoc, List.take_add]

/-- The copy loop writes bytes to the stream. -/
theorem Sound.writeStream (h : c.Sound) (hpc : c.pc = .tunnel) (n : Nat) :
    ({ c with sent := c.sent ++ c.up.take n, up := c.up.drop n } : Connect).Sound := by
  obtain ⟨hr, hs⟩ := h
  have ht := hs.tunnel hpc
  have hheader : c.header <+: c.sent ++ c.up.take n := ht.header.trans (List.prefix_append _ _)
  refine ⟨⟨?_, fun _ => hheader, hr.resp, hr.toApp, hr.late, fun h => absurd h ht.replies_ne⟩,
    Copies.stands ⟨ht.replies, ht.resp, hheader, ?_, ht.taken, ht.behind, ht.pos, ht.toApp⟩ hpc⟩
  · calc c.sent ++ c.up.take n <+: c.sent ++ c.up :=
          (List.prefix_append_right_inj _).mpr (List.take_prefix _ _)
      _ = c.header ++ c.fromApp.take c.taken := ht.sent
      _ <+: c.header ++ c.fromApp := (List.prefix_append_right_inj _).mpr (List.take_prefix _ _)
  · show (c.sent ++ c.up.take n) ++ c.up.drop n = c.header ++ c.fromApp.take c.taken
    rw [List.append_assoc, List.take_append_drop, ht.sent]

/-- The copy loop reads bytes of the stream. -/
theorem Sound.readStream (h : c.Sound) (hpc : c.pc = .tunnel) {n : Nat}
    (hn : n ≤ c.recv.unread.length) :
    ({ c with down := c.down ++ c.recv.unread.take n, recv := c.recv.advance n } :
      Connect).Sound := by
  obtain ⟨hr, hs⟩ := h
  have ht := hs.tunnel hpc
  rw [Server.RecvStream.unread, List.length_drop] at hn
  have hpos := ht.pos
  refine ⟨⟨hr.sent, hr.finished, hr.resp, hr.toApp, hr.late, fun h => absurd h ht.replies_ne⟩,
    Copies.stands ⟨ht.replies, ht.resp, ht.header, ht.sent, ht.taken,
      Nat.le_add_right_of_le ht.behind, ?_, ?_⟩ hpc⟩
  · show c.recv.pos + n ≤ c.recv.data.length
    omega
  · show c.toApp ++ (c.down ++ _) = (c.recv.data.take (c.recv.pos + n)).drop _
    rw [← List.append_assoc, ht.toApp, take_add_drop ht.behind ht.pos, Server.RecvStream.unread]

/-- The copy loop writes bytes to the application. -/
theorem Sound.writeApp (h : c.Sound) (hpc : c.pc = .tunnel) (n : Nat) :
    ({ c with toApp := c.toApp ++ c.down.take n, down := c.down.drop n } : Connect).Sound := by
  obtain ⟨hr, hs⟩ := h
  have ht := hs.tunnel hpc
  refine ⟨⟨hr.sent, hr.finished, hr.resp, fun _ => ⟨ht.resp, ?_⟩, hr.late,
    fun h => absurd h ht.replies_ne⟩,
    Copies.stands ⟨ht.replies, ht.resp, ht.header, ht.sent, ht.taken, ht.behind, ht.pos, ?_⟩ hpc⟩
  · calc c.toApp ++ c.down.take n <+: c.toApp ++ c.down :=
          (List.prefix_append_right_inj _).mpr (List.take_prefix _ _)
      _ = (c.recv.data.take c.recv.pos).drop _ := ht.toApp
      _ <+: c.recv.data.drop _ := (List.take_prefix _ _).drop _
  · show (c.toApp ++ c.down.take n) ++ c.down.drop n = _
    rw [List.append_assoc, List.take_append_drop, ht.toApp]

/-- The application gets `Succeeded`, and nothing has been copied yet. -/
theorem Sound.succeeds (h : c.Sound) (hpc : c.pc = .reply .succeeded) :
    ({ c with pc := .tunnel, replies := c.replies ++ [.succeeded] } : Connect).Sound := by
  obtain ⟨hr, hs⟩ := h
  unfold Stands at hs
  rw [hpc] at hs
  obtain ⟨hreplies, hresp, hsent, htaken, htoApp, hpos⟩ := hs
  obtain ⟨hup, hdown⟩ := hr.held hreplies
  have hlen := (hr.resp _ hresp).serializedLen_le
  refine ⟨hr.reply _ _, by rw [hreplies]; rfl, hresp, ?_, ?_, ?_, Nat.le_of_eq hpos.symm,
    hpos ▸ hlen, ?_⟩
  · show c.header <+: c.sent
    rw [hsent]
  · show c.sent ++ c.up = c.header ++ c.fromApp.take c.taken
    rw [hsent, hup, htaken, List.take_zero]
  · rw [htaken]
    exact Nat.zero_le _
  · show c.toApp ++ c.down = _
    rw [htoApp, hdown, hpos, List.drop_take_self]
    rfl

/-- A `Response(true)` is decoded, and the stream is behind it. -/
theorem Sound.accepted (h : c.Sound) (hpc : c.pc = .readFrom) {rest : Bytes}
    (hread : Command.readFrom c.recv.data = .ok (.response true, rest)) :
    ({ c with
      recv := c.recv.advance (c.recv.data.length - rest.length)
      resp := some (.response true)
      pc := .reply .succeeded } : Connect).Sound := by
  obtain ⟨hr, hs⟩ := h
  unfold Stands at hs
  rw [hpc] at hs
  obtain ⟨⟨hreplies, -, htaken, htoApp, hpos⟩, hsent, -⟩ := hs
  refine ⟨hr.decodes htoApp hread _ _ hr.finished, hreplies, rfl, hsent, htaken, htoApp, ?_⟩
  show c.recv.pos + (c.recv.data.length - rest.length) = _
  obtain ⟨-, hdata⟩ := Command.readFrom_eq_ok.mp hread
  rw [hpos, Nat.zero_add, hdata, List.length_append, Command.length_writeToBuf]
  omega

/-- Another command is decoded, and the stream is finished. -/
theorem Sound.refused (h : c.Sound) (hpc : c.pc = .readFrom) {cmd : Command} {rest : Bytes}
    (hne : cmd ≠ .response true) (hread : Command.readFrom c.recv.data = .ok (cmd, rest)) :
    ({ c with
      recv := c.recv.advance (c.recv.data.length - rest.length)
      resp := some cmd
      pc := .finish
      finished := true } : Connect).Sound := by
  obtain ⟨hr, hs⟩ := h
  have hheader := hs.header_sent (Or.inl hpc)
  unfold Stands at hs
  rw [hpc] at hs
  obtain ⟨⟨hreplies, -, -, htoApp, -⟩, -⟩ := hs
  refine ⟨hr.decodes htoApp hread _ _ fun _ => hheader, hreplies, htoApp, ?_⟩
  exact fun h => hne (Option.some.inj h)

/-- **Every step of a request keeps what holds of it.** -/
theorem Sound.step (h : c.Sound) (hstep : c.Step c') : c'.Sound := by
  obtain ⟨hr, hs⟩ := h
  cases hstep with
  | stream ev recv hon => exact ⟨hr.stream hon, hs.stream hon⟩
  | early bytes hreplies =>
    -- nothing was sent after the reply yet, so the bytes come last
    have hprefix : c.fromApp <+: (c.early ++ bytes) ++ c.late := by
      rw [fromApp, hr.late hreplies, List.append_nil, List.append_nil]
      exact List.prefix_append _ _
    exact ⟨hr.app hr.late hprefix, hs.app hprefix⟩
  | late bytes hreplies =>
    have hprefix : c.fromApp <+: c.early ++ (c.late ++ bytes) := by
      rw [← List.append_assoc]
      exact List.prefix_append _ _
    exact ⟨hr.app (fun h => absurd h hreplies) hprefix, hs.app hprefix⟩
  | readApp n hpc hfinished hn => exact Sound.readApp ⟨hr, hs⟩ hpc hn
  | writeStream n hpc hfinished hn => exact Sound.writeStream ⟨hr, hs⟩ hpc n
  | readStream n hpc hn => exact Sound.readStream ⟨hr, hs⟩ hpc hn
  | writeApp n hpc hn => exact Sound.writeApp ⟨hr, hs⟩ hpc n
  | eof hpc hup =>
    have ht := hs.tunnel hpc
    exact ⟨hr.finishes ht.header c.pc, Copies.stands ⟨ht.replies, ht.resp, ht.header, ht.sent,
      ht.taken, ht.behind, ht.pos, ht.toApp⟩ hpc⟩
  | tunnelEnds hpc =>
    have ht := hs.tunnel hpc
    exact ⟨hr.finishes ht.header _, Or.inl ⟨ht.replies, ht.resp⟩⟩
  | goesOn pc hpc =>
    refine ⟨hr.moves pc, ?_⟩
    unfold Stands at hs
    rcases hpc with ⟨hpc, rfl⟩ | ⟨hpc, rfl⟩ | ⟨hpc, rfl⟩ <;> rw [hpc] at hs <;> exact hs
  | aborts finished hpc =>
    have hheader := hs.header_sent
    unfold Stands at hs
    rcases hpc with ⟨hpc, rfl⟩ | ⟨hpc, rfl⟩ | ⟨hpc, rfl⟩ <;> rw [hpc] at hs
    · exact ⟨hr.moves _, hs.1.1⟩
    · exact ⟨hr.moves _, hs.1⟩
    · exact ⟨hr.finishes (hheader (Or.inr (Or.inl hpc))) _, hs.1⟩
  | noStream hpc =>
    refine ⟨hr.moves _, ?_⟩
    unfold Stands at hs
    have hfresh : c.Fresh := by
      rcases hpc with hpc | hpc <;> rw [hpc] at hs <;> exact hs.1
    exact ⟨hfresh.1, hfresh.2.2.2.1, hfresh.resp_ne⟩
  | writes hpc =>
    unfold Stands at hs
    rw [hpc] at hs
    obtain ⟨hfresh, -, hfinished⟩ := hs
    exact ⟨⟨List.prefix_append _ _, fun _ => List.prefix_refl _, hr.resp, hr.toApp, hr.late,
      hr.held⟩, hfresh, rfl, hfinished⟩
  | cut n hpc =>
    unfold Stands at hs
    rw [hpc] at hs
    obtain ⟨hfresh, -, hfinished⟩ := hs
    refine ⟨⟨?_, fun h => ?_, hr.resp, hr.toApp, hr.late, hr.held⟩, hfresh.1, hfresh.2.2.2.1,
      hfresh.resp_ne⟩
    · exact (List.take_prefix _ _).trans (List.prefix_append _ _)
    · rw [show c.finished = true from h] at hfinished
      cases hfinished
  | accepted rest hpc hread => exact Sound.accepted ⟨hr, hs⟩ hpc hread
  | refused cmd rest hpc hne hread => exact Sound.refused ⟨hr, hs⟩ hpc hne hread
  | unreadable hpc =>
    refine ⟨hr.finishes (hs.header_sent (Or.inl hpc)) _, ?_⟩
    unfold Stands at hs
    rw [hpc] at hs
    exact ⟨hs.1.1, hs.1.2.2.2.1, hs.1.resp_ne⟩
  | finishes hpc =>
    unfold Stands at hs
    rw [hpc] at hs
    exact ⟨hr.moves _, hs⟩
  | succeeds hpc => exact Sound.succeeds ⟨hr, hs⟩ hpc
  | fails hpc =>
    unfold Stands at hs
    rw [hpc] at hs
    refine ⟨hr.reply _ _, ?_, hs.2.2⟩
    show c.replies ++ _ = _
    rw [hs.1]
    rfl
  | ends hpc =>
    unfold Stands at hs
    rw [hpc] at hs
    exact ⟨hr.moves _, Or.inr hs⟩

/-- A request keeps its address, and takes back nothing that it has sent. -/
theorem Sound.sends_on (h : c.Sound) (hstep : c.Step c') :
    c'.addr = c.addr ∧ c.sent <+: c'.sent := by
  -- nothing is sent before the header
  have hnil : c.pc = .writeTo → c.sent = [] := by
    intro hpc
    have hs := h.2
    unfold Stands at hs
    rw [hpc] at hs
    exact hs.2.1
  cases hstep with
  | writes hpc => exact ⟨rfl, hnil hpc ▸ List.nil_prefix⟩
  | cut n hpc => exact ⟨rfl, hnil hpc ▸ List.nil_prefix⟩
  | writeStream n hpc hfinished hn => exact ⟨rfl, List.prefix_append _ _⟩
  | _ => exact ⟨rfl, List.prefix_refl _⟩

/-- A request that has just come in has done nothing. -/
theorem sound_new (addr : Address) (canonical : addr.Canonical) :
    (Connect.new addr canonical).Sound := by
  refine ⟨⟨List.nil_prefix, fun h => ?_, fun cmd h => ?_, fun h => absurd rfl h, fun _ => rfl,
    fun _ => ⟨rfl, rfl⟩⟩, ?_⟩
  · cases h
  · cases h
  · exact ⟨⟨rfl, rfl, rfl, rfl, rfl⟩, rfl, rfl⟩

/-- **Every request is where it says**, with any server. -/
theorem sound_of_reachable {addr : Address} {canonical : addr.Canonical}
    {C : Connect → ConnectAction → Prop} (h : (connectSystem addr canonical).ReachableBy C c) :
    c.Sound := by
  refine h.invariant (I := Sound) (sound_new addr canonical) ?_
  exact fun c a c' _ hc _ hstep => hc.step (step_cases hstep)

/-- **How a request answers its application**: with one reply at most, which is `Succeeded` when a
`Response(true)` was decoded from the stream and `NetworkUnreachable` otherwise; with one when it
has ended, unless the SOCKS5 connection failed before. -/
structure Answers (c : Connect) : Prop where
  /-- There is one reply at most. -/
  atMostOne : c.replies.length ≤ 1
  /-- It is `Succeeded` exactly for a `Response(true)`. -/
  succeeded : ∀ r ∈ c.replies, r = .succeeded ↔ c.resp = some (.response true)
  /-- A response is the command that the stream starts with. -/
  decoded : ∀ cmd, c.resp = some cmd → Server.Carries c.recv.data cmd
  /-- A request that has ended has replied. -/
  ended : c.pc = .ended → c.replies =
    [if c.resp = some (.response true) then .succeeded else .networkUnreachable]
  /-- One whose SOCKS5 connection has failed before or under the reply has not. -/
  aborted : c.pc = .aborted → c.replies = []

/-- A request that is where it says answers its application. -/
theorem Sound.answers (h : c.Sound) : c.Answers := by
  obtain ⟨hr, hs⟩ := h
  -- the replies are those of the place the request is at
  have hreplies : c.replies = [] ∨ c.replies = [.succeeded] ∧ c.resp = some (.response true) ∨
      c.replies = [.networkUnreachable] ∧ c.resp ≠ some (.response true) := by
    unfold Stands at hs
    split at hs
    · exact Or.inl hs.1.1
    · exact Or.inl hs.1.1
    · exact Or.inl hs.1.1
    · exact Or.inl hs.1.1
    · exact Or.inl hs.1.1
    · exact Or.inl hs.1
    · exact Or.inl hs.1
    · exact Or.inl hs.1
    · exact Or.inr (Or.inl ⟨hs.replies, hs.resp⟩)
    · exact Or.inr (Or.inr hs)
    · exact Or.inr hs
    · exact Or.inl hs
  refine ⟨?_, fun r hmem => ?_, hr.resp, fun hpc => ?_, fun hpc => ?_⟩
  · rcases hreplies with h | ⟨h, -⟩ | ⟨h, -⟩ <;> rw [h] <;> decide
  · rcases hreplies with h | ⟨h, hresp⟩ | ⟨h, hresp⟩
    · rw [h] at hmem
      cases hmem
    · rw [h, List.mem_singleton] at hmem
      exact iff_of_true hmem hresp
    · rw [h, List.mem_singleton] at hmem
      rw [hmem]
      exact iff_of_false Socks5.Reply.noConfusion hresp
  · unfold Stands at hs
    rw [hpc] at hs
    rcases hs with ⟨h, hresp⟩ | ⟨h, hresp⟩
    · rw [h, if_pos hresp]
    · rw [h, if_neg hresp]
  · unfold Stands at hs
    rw [hpc] at hs
    exact hs

end Connect

end Tuic.Client
