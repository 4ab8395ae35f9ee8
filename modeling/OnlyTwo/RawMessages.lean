import OnlyTwo.RawFrames

/-!
Messages over the frames of a socket: `ReadMessage` of internal/ws/raw.go and the loop that
calls it. What a write or the pong handler answers is a parameter that sees everything the
socket has done so far. `received` says over frames what `readAll` does over their bytes.
-/

namespace OnlyTwo.RawSocket

inductive Effect where
  | write (chunk : Bytes)
  | pong (payload : Bytes)
  deriving DecidableEq

/-- `answer` is the error that the last of some effects meets, after the ones before it. -/
structure Socket where
  limit : Int
  hasPongHandler : Bool
  answer : List Effect → Option ReadError

namespace Socket

/-- One effect after the other, up to the first error. -/
def perform (socket : Socket) (past : List Effect) : List Effect → List Effect × Option ReadError
  | [] => (past, none)
  | effect :: rest =>
      match socket.answer (past ++ [effect]) with
      | some error => (past ++ [effect], some error)
      | none => socket.perform (past ++ [effect]) rest

def writeMessage (socket : Socket) (past : List Effect) (opcode : Nat) (payload : Bytes) :
    List Effect × Option ReadError :=
  socket.perform past ((writeMessageLocked opcode payload).map .write)

def handlePong (socket : Socket) (past : List Effect) (payload : Bytes) :
    List Effect × Option ReadError :=
  socket.perform past (if socket.hasPongHandler then [.pong payload] else [])

def readMessage (socket : Socket) (reader : Reader) (past : List Effect) :
    Except ReadError (Nat × Bytes × Reader) × List Effect :=
  match taken : readFrame socket.limit reader with
  | .error error => (.error error, past)
  | .ok (opcode, payload, rest) =>
      have := readFrame_shrinks taken
      match opcode with
      | wsBinaryMessage | wsTextMessage => (.ok (opcode, payload, rest), past)
      | wsCloseMessage => (.error .eof, past)
      | wsPingMessage =>
          match socket.writeMessage past wsPongMessage payload with
          | (past, some error) => (.error error, past)
          | (past, none) => socket.readMessage rest past
      | wsPongMessage =>
          match socket.handlePong past payload with
          | (past, some error) => (.error error, past)
          | (past, none) => socket.readMessage rest past
      | _ => (.error (.invalid "unsupported websocket opcode"), past)
termination_by reader.bytes.length

section Messages
variable {socket : Socket} {reader rest : Reader} {past later : List Effect} {opcode : Nat}
  {payload : Bytes}

/-- What a frame without a message in it leads to. -/
def proceed (socket : Socket) (rest : Reader) :
    List Effect × Option ReadError → Except ReadError (Nat × Bytes × Reader) × List Effect
  | (past, some error) => (.error error, past)
  | (past, none) => socket.readMessage rest past

theorem readMessage_data (taken : readFrame socket.limit reader = .ok (opcode, payload, rest))
    (data : opcode = wsTextMessage ∨ opcode = wsBinaryMessage) :
    socket.readMessage reader past = (.ok (opcode, payload, rest), past) := by
  rw [readMessage]
  split
  · simp_all
  · rename_i same
    rw [taken] at same
    cases same
    rcases data with rfl | rfl <;> rfl

theorem readMessage_close
    (taken : readFrame socket.limit reader = .ok (wsCloseMessage, payload, rest)) :
    socket.readMessage reader past = (.error .eof, past) := by
  rw [readMessage]
  split
  · simp_all
  · rename_i same
    rw [taken] at same
    cases same
    rfl

theorem readMessage_ping
    (taken : readFrame socket.limit reader = .ok (wsPingMessage, payload, rest)) :
    socket.readMessage reader past =
      socket.proceed rest (socket.writeMessage past wsPongMessage payload) := by
  rw [readMessage]
  split
  · simp_all
  · rename_i same
    rw [taken] at same
    cases same
    simp only [proceed]

theorem readMessage_pong
    (taken : readFrame socket.limit reader = .ok (wsPongMessage, payload, rest)) :
    socket.readMessage reader past = socket.proceed rest (socket.handlePong past payload) := by
  rw [readMessage]
  split
  · simp_all
  · rename_i same
    rw [taken] at same
    cases same
    simp only [proceed]

/-- A message lies behind the bytes it came in. -/
theorem readMessage_shrinks
    (taken : socket.readMessage reader past = (.ok (opcode, payload, rest), later)) :
    rest.bytes.length < reader.bytes.length := by
  fun_induction socket.readMessage reader past with
  | case2 =>
      cases taken
      assumption
  | case3 =>
      cases taken
      assumption
  | case6 =>
      rename_i shorter ih
      exact (ih taken).trans shorter
  | case8 =>
      rename_i shorter ih
      exact (ih taken).trans shorter
  | _ => cases taken

end Messages

/-- The calls of a loop that reads until an error: the messages, and what ended it. -/
def readAll (socket : Socket) (reader : Reader) (past : List Effect) :
    List (Nat × Bytes) × ReadError × List Effect :=
  match taken : socket.readMessage reader past with
  | (.error error, past) => ([], error, past)
  | (.ok (opcode, payload, rest), past) =>
      have := readMessage_shrinks taken
      let more := socket.readAll rest past
      ((opcode, payload) :: more.1, more.2)
termination_by reader.bytes.length

end Socket

/-- The bytes of frames that arrive one after the other. -/
def wire (frames : List ClientFrame) : Bytes := frames.flatMap ClientFrame.bytes

def ClientFrame.message (frame : ClientFrame) : Option (Nat × Bytes) :=
  if frame.opcode = wsTextMessage ∨ frame.opcode = wsBinaryMessage then
    some (frame.opcode, frame.payload)
  else none

namespace Socket

/-- What the socket does about a ping or a pong. -/
def replies (socket : Socket) (frame : ClientFrame) : List Effect :=
  if frame.opcode = wsPingMessage then
    (writeMessageLocked wsPongMessage frame.payload).map .write
  else if frame.opcode = wsPongMessage ∧ socket.hasPongHandler = true then [.pong frame.payload]
  else []

/-- The messages of some frames, and the error that ends the reading among them. -/
def received (socket : Socket) (past : List Effect) :
    List ClientFrame → List (Nat × Bytes) × Option ReadError × List Effect
  | [] => ([], none, past)
  | frame :: rest =>
      match frame.message with
      | some message =>
          let more := socket.received past rest
          (message :: more.1, more.2)
      | none =>
          if frame.opcode = wsCloseMessage then ([], some .eof, past)
          else
            match socket.perform past (socket.replies frame) with
            | (past, some error) => ([], some error, past)
            | (past, none) => socket.received past rest

/-- The reading goes on behind the frames unless something among them ended it. -/
def continued (socket : Socket) (reader : Reader) :
    List (Nat × Bytes) × Option ReadError × List Effect →
      List (Nat × Bytes) × ReadError × List Effect
  | (messages, some error, past) => (messages, error, past)
  | (messages, none, past) =>
      let more := socket.readAll reader past
      (messages ++ more.1, more.2)

section Frames
variable {socket : Socket} {reader : Reader} {past : List Effect} {frame : ClientFrame}

theorem readAll_eq (socket : Socket) (reader : Reader) (past : List Effect) :
    socket.readAll reader past =
      match socket.readMessage reader past with
      | (.error error, past) => ([], error, past)
      | (.ok (opcode, payload, rest), past) =>
          ((opcode, payload) :: (socket.readAll rest past).1, (socket.readAll rest past).2) := by
  rw [readAll]
  split
  · rename_i taken
    simp only [taken]
  · rename_i taken
    simp only [taken]

theorem readAll_failed {rest : Reader} {later : List Effect} {error : ReadError}
    (read : socket.readMessage reader past = socket.proceed rest (later, some error)) :
    socket.readAll reader past = ([], error, later) := by
  rw [readAll_eq, read]
  rfl

/-- Reading on behind a ping or a pong. -/
theorem readAll_onward {rest : Reader} {later : List Effect}
    (read : socket.readMessage reader past = socket.proceed rest (later, none)) :
    socket.readAll reader past = socket.readAll rest later := by
  rw [readAll_eq, read, readAll_eq socket rest later]
  rfl

/-- A frame without a message is a close, or what `replies` is about. -/
theorem readMessage_reply
    (allowed : Allowed socket.limit frame.opcode frame.payload) (silent : frame.message = none)
    (stays : frame.opcode ≠ wsCloseMessage) (following : Bytes) (ending : ReadError)
    (past : List Effect) :
    socket.readMessage ⟨frame.bytes ++ following, ending⟩ past =
      socket.proceed ⟨following, ending⟩ (socket.perform past (socket.replies frame)) := by
  have taken := readFrame_bytes frame allowed following ending
  have data : ¬ (frame.opcode = wsTextMessage ∨ frame.opcode = wsBinaryMessage) := by
    intro data
    simp [ClientFrame.message, data] at silent
  have known : frame.opcode = wsPingMessage ∨ frame.opcode = wsPongMessage := by
    have known := allowed.known
    unfold validOpcode at known
    split at known <;> simp_all
  rcases known with ping | pong
  · rw [ping] at taken
    rw [readMessage_ping taken, writeMessage, replies, if_pos ping]
  · rw [pong] at taken
    have answers : socket.replies frame =
        if socket.hasPongHandler then [.pong frame.payload] else [] := by simp [replies, pong]
    rw [readMessage_pong taken, handlePong, answers]

/-- The bytes of frames say what the frames say, whatever follows them and whatever the
socket's writes and its handler answer. -/
theorem readAll_wire (frames : List ClientFrame)
    (allowed : ∀ frame ∈ frames, Allowed socket.limit frame.opcode frame.payload)
    (following : Bytes) (ending : ReadError) (past : List Effect) :
    socket.readAll ⟨wire frames ++ following, ending⟩ past =
      socket.continued ⟨following, ending⟩ (socket.received past frames) := by
  induction frames generalizing past with
  | nil => rfl
  | cons frame rest ih =>
      obtain ⟨first, later⟩ := List.forall_mem_cons.mp allowed
      have next := ih later
      have front : wire (frame :: rest) ++ following = frame.bytes ++ (wire rest ++ following) := by
        simp [wire]
      have taken := readFrame_bytes frame first (wire rest ++ following) ending
      rw [front, received]
      cases message : frame.message with
      | some content =>
          have data : frame.opcode = wsTextMessage ∨ frame.opcode = wsBinaryMessage := by
            by_contra other
            simp [ClientFrame.message, other] at message
          -- A data frame is a whole message, and the next read starts behind it.
          have content : content = (frame.opcode, frame.payload) := by
            simpa [ClientFrame.message, data] using message.symm
          rw [readAll_eq, readMessage_data taken data, content]
          simp only [next]
          obtain ⟨messages, failure, done⟩ := socket.received past rest
          cases failure <;> rfl
      | none =>
          by_cases close : frame.opcode = wsCloseMessage
          · rw [close] at taken
            rw [readAll_eq, readMessage_close taken]
            simp only [if_pos close]
            rfl
          · have read := readMessage_reply first message close (wire rest ++ following) ending past
            simp only [if_neg close]
            -- A ping is answered before the next frame is read, and a failed write ends the
            -- reading.
            cases answered : socket.perform past (socket.replies frame) with
            | mk done failure =>
                rw [answered] at read
                cases failure with
                | some error => exact readAll_failed read
                | none => exact (readAll_onward read).trans (next done)

theorem perform_quiet (quiet : ∀ effects, socket.answer effects = none) (past effects : List Effect) :
    socket.perform past effects = (past ++ effects, none) := by
  induction effects generalizing past with
  | nil => simp [perform]
  | cons effect rest ih =>
      rw [perform, quiet]
      simp only [ih, List.append_assoc, List.cons_append, List.nil_append]

theorem replies_data {content : Nat × Bytes} (message : frame.message = some content) :
    socket.replies frame = [] := by
  by_cases data : frame.opcode = wsTextMessage ∨ frame.opcode = wsBinaryMessage
  · rcases data with text | binary
    · simp [replies, text]
    · simp [replies, binary]
  · simp [ClientFrame.message, data] at message

/-- Without a close and without an error, every message arrives in order, and every ping
and pong between them is answered in order. -/
theorem received_quiet (quiet : ∀ effects, socket.answer effects = none)
    (frames : List ClientFrame) (stays : ∀ frame ∈ frames, frame.opcode ≠ wsCloseMessage)
    (past : List Effect) :
    socket.received past frames =
      (frames.filterMap ClientFrame.message, none, past ++ frames.flatMap socket.replies) := by
  induction frames generalizing past with
  | nil => simp [received]
  | cons frame rest ih =>
      obtain ⟨first, later⟩ := List.forall_mem_cons.mp stays
      have next := ih later
      rw [received, List.flatMap_cons]
      cases message : frame.message with
      | some content =>
          rw [replies_data message, List.filterMap_cons_some message]
          simp only [next, List.nil_append]
      | none =>
          simp only [if_neg first, perform_quiet quiet, next, List.filterMap_cons_none message,
            List.append_assoc]

end Frames

end Socket

/-- Framing on the server: a frame that a client may send is read back exactly, so the
bytes of any such frames say what the frames say; and what is read at all was a frame of
that kind. -/
theorem raw_framing (limit : Int) :
    (∀ frame : ClientFrame, Allowed limit frame.opcode frame.payload →
      ∀ following ending, readFrame limit ⟨frame.bytes ++ following, ending⟩ =
        .ok (frame.opcode, frame.payload, ⟨following, ending⟩)) ∧
    (∀ socket : Socket, socket.limit = limit → ∀ frames : List ClientFrame,
      (∀ frame ∈ frames, Allowed limit frame.opcode frame.payload) →
      ∀ following ending past,
        socket.readAll ⟨wire frames ++ following, ending⟩ past =
          socket.continued ⟨following, ending⟩ (socket.received past frames) ∧
        ((∀ effects, socket.answer effects = none) →
          (∀ frame ∈ frames, frame.opcode ≠ wsCloseMessage) →
          socket.received past frames = (frames.filterMap ClientFrame.message, none,
            past ++ frames.flatMap socket.replies))) ∧
    ∀ reader opcode payload rest, readFrame limit reader = .ok (opcode, payload, rest) →
      Seen limit reader opcode payload rest := by
  refine ⟨fun frame allowed => readFrame_bytes frame allowed, ?_, ?_⟩
  · intro socket same frames allowed following ending past
    subst same
    exact ⟨Socket.readAll_wire frames allowed following ending past,
      fun quiet stays => Socket.received_quiet quiet frames stays past⟩
  · intro reader opcode payload rest accepted
    exact readFrame_ok accepted

def sampleFrame (opcode : Nat) (payload : Bytes) : ClientFrame := ⟨opcode, payload, [1, 2, 3, 4], rfl⟩

def sampleSocket : Socket := ⟨8, true, fun _ => none⟩

theorem messages_between_pings :
    readFrame 8 ⟨(sampleFrame wsTextMessage [5, 6]).bytes ++ [0x82], .eof⟩ =
      .ok (wsTextMessage, [5, 6], ⟨[0x82], .eof⟩) ∧
    Seen 8 ⟨(sampleFrame wsTextMessage [5, 6]).bytes ++ [0x82], .eof⟩ wsTextMessage [5, 6]
      ⟨[0x82], .eof⟩ ∧
    sampleSocket.readAll ⟨wire [sampleFrame wsPingMessage [7], sampleFrame wsBinaryMessage [5, 6],
        sampleFrame wsPongMessage [], sampleFrame wsTextMessage [1]] ++ [0x82], .eof⟩ [] =
      sampleSocket.continued ⟨[0x82], .eof⟩ ([(wsBinaryMessage, [5, 6]), (wsTextMessage, [1])], none,
        [.write [0x8a, 1], .write [7], .pong []]) := by
  obtain ⟨back, all, seen⟩ := raw_framing 8
  have read := back (sampleFrame wsTextMessage [5, 6]) (by decide) [0x82] .eof
  obtain ⟨same, quiet⟩ := all sampleSocket rfl [sampleFrame wsPingMessage [7],
    sampleFrame wsBinaryMessage [5, 6], sampleFrame wsPongMessage [],
    sampleFrame wsTextMessage [1]] (by decide) [0x82] .eof []
  refine ⟨read, seen _ _ _ _ read, ?_⟩
  rw [same, quiet (fun _ => rfl) (by decide)]
  rfl

end OnlyTwo.RawSocket
