import Esp32Iot.CString
import Esp32Iot.Lib.Feed

/-!
# Reading from the socket

`esp32_read` of `Network.c`, the function behind `mqttread`. The outcomes of the calls of `recv` are
a list, `Recv`; when they are used up, nothing comes from the broker any more and every further call
times out. `recv` leaves `errno` as it is when it succeeds, and the source reads it then too.

The timeout of the caller only decides which calls of `recv` time out, and is not an argument here.

`esp32Read_feed` is the abstraction that the packet reader is proved over: the lengths in which the
bytes arrive do not matter, and the line is a `Feed` of bytes that pauses at a timeout and ends with
the connection.
-/

namespace Esp32Iot

/-- The values of `errno` that the source names, and the others. -/
inductive Errno
  /-- no error was reported yet -/
  | clear
  /-- the timeout of `recv` -/
  | eagain
  | enotconn
  | econnreset
  | epipe
  | other (code : Nat)
  deriving DecidableEq

/-- `errno == ENOTCONN || errno == ECONNRESET`. -/
def Errno.gone (e : Errno) : Bool := e = .enotconn ∨ e = .econnreset

/-- `errno == ENOTCONN || errno == ECONNRESET || errno == EPIPE`. -/
def Errno.broken (e : Errno) : Bool := e.gone ∨ e = .epipe

/-- What a call of `recv` finds. -/
inductive Recv
  /-- bytes that have arrived, of which the call takes as many as it asks for; none of them is the
  end of the connection, for which `recv` returns 0 -/
  | arrived (data : Bytes)
  /-- `recv` returns -1 -/
  | failed (errno : Errno)
  deriving DecidableEq

/-- `network->connected`, `errno` and what comes from the broker. -/
structure ReadLine where
  connected : Bool
  errno : Errno
  incoming : List Recv
  deriving DecidableEq

/-- The result of an `mqttread`: its return value, the bytes it writes from the start of its buffer
on, and the line after it. -/
structure MqttRead where
  code : Int
  written : Bytes
  line : ReadLine
  deriving DecidableEq

/-- What `recv` leaves of the bytes that have arrived. -/
def leftOver (data : Bytes) (rest : List Recv) : List Recv :=
  if data = [] then rest else .arrived data :: rest

/-- The loop of `esp32_read`, while `network->connected` is set. -/
def esp32ReadLoop (len : Nat) : Nat → Errno → List Recv → MqttRead
  | bytes, errno, [] =>
      if bytes < len then ⟨-1, [], ⟨true, .eagain, []⟩⟩ else ⟨bytes, [], ⟨true, errno, []⟩⟩
  | bytes, errno, .failed e :: rest =>
      if bytes < len then
        -- a connection that is gone does not leave the loop
        if e.gone then esp32ReadLoop len bytes e rest else ⟨-1, [], ⟨true, e, rest⟩⟩
      else ⟨bytes, [], ⟨true, errno, .failed e :: rest⟩⟩
  | bytes, errno, .arrived data :: rest =>
      if bytes < len then
        if data = [] ∨ errno.broken then
          ⟨bytes, data.take (len - bytes), ⟨false, errno, leftOver (data.drop (len - bytes)) rest⟩⟩
        else if len - bytes < data.length then
          -- the buffer is full
          ⟨len, data.take (len - bytes), ⟨true, errno, leftOver (data.drop (len - bytes)) rest⟩⟩
        else
          let read := esp32ReadLoop len (bytes + data.length) errno rest
          { read with written := data ++ read.written }
      else ⟨bytes, [], ⟨true, errno, .arrived data :: rest⟩⟩

/-- `esp32_read`. -/
def esp32Read (len : Nat) (l : ReadLine) : MqttRead :=
  if l.connected then esp32ReadLoop len 0 l.errno l.incoming else ⟨0, [], l⟩

/-! ## The bytes without their segments -/

/-- The bytes of a connection that is up. -/
def Recv.feed : Errno → List Recv → Feed UInt8
  | _, [] => .quiet
  | _, .failed e :: rest => if e.gone then Recv.feed e rest else .pause (Recv.feed e rest)
  | errno, .arrived data :: rest =>
      if data = [] ∨ errno.broken then .ended data else .append data (Recv.feed errno rest)

/-- The bytes of a line. -/
def ReadLine.feed (l : ReadLine) : Feed UInt8 :=
  if l.connected then Recv.feed l.errno l.incoming else .ended []

/-- What the caller of an `mqttread` sees of it. -/
def MqttRead.reading (r : MqttRead) : Feed.Reading UInt8 where
  count := if r.code = -1 then none else some r.code.toNat
  items := r.written
  rest := r.line.feed

/-- A feed after the bytes that the loop has. -/
def countFrom (bytes : Nat) (r : Feed.Reading UInt8) : Feed.Reading UInt8 :=
  { r with count := r.count.map (bytes + ·) }

theorem reading_of_nat (n : Nat) (written : Bytes) (l : ReadLine) :
    MqttRead.reading ⟨n, written, l⟩ = ⟨some n, written, l.feed⟩ := by
  have hn : ¬ (n : Int) = -1 := by omega
  simp [MqttRead.reading, hn]

theorem feed_leftOver (errno : Errno) (herrno : errno.broken = false) (data : Bytes)
    (rest : List Recv) :
    Recv.feed errno (leftOver data rest) = .append data (Recv.feed errno rest) := by
  cases data with
  | nil => rfl
  | cons b data => simp [leftOver, Recv.feed, herrno]

/-- The bytes the loop already has are in front of what it reads. -/
theorem countFrom_after (bytes : Nat) (data : Bytes) (r : Feed.Reading UInt8) :
    countFrom bytes (r.after data) =
      { countFrom (bytes + data.length) r with
        items := data ++ (countFrom (bytes + data.length) r).items } := by
  obtain ⟨count, items, rest⟩ := r
  cases count with
  | none => rfl
  | some n => simp [countFrom, Feed.Reading.after, Nat.add_assoc]

/-- The loop reads from the feed what is still missing. -/
theorem esp32ReadLoop_feed (len : Nat) {bytes : Nat} (hbytes : bytes ≤ len) (errno : Errno)
    (incoming : List Recv) :
    (esp32ReadLoop len bytes errno incoming).reading =
      countFrom bytes ((Recv.feed errno incoming).read (len - bytes)) := by
  induction incoming generalizing bytes errno with
  | nil =>
    unfold esp32ReadLoop
    split
    next hlt =>
      obtain ⟨n, hn⟩ : ∃ n, len - bytes = n + 1 := ⟨len - bytes - 1, by omega⟩
      rw [hn]
      rfl
    next hge => rw [Nat.sub_eq_zero_of_le (Nat.le_of_not_lt hge), reading_of_nat]; rfl
  | cons r rest ih =>
    cases Nat.lt_or_ge bytes len with
    | inr hge =>
      have hloop : esp32ReadLoop len bytes errno (r :: rest) =
          ⟨bytes, [], ⟨true, errno, r :: rest⟩⟩ := by
        cases r <;> rw [esp32ReadLoop, if_neg (Nat.not_lt.2 hge)]
      rw [hloop, reading_of_nat, Nat.sub_eq_zero_of_le hge, Feed.read_zero]
      rfl
    | inl hlt =>
      obtain ⟨n, hn⟩ : ∃ n, len - bytes = n + 1 := ⟨len - bytes - 1, by omega⟩
      cases r with
      | failed e =>
        rw [esp32ReadLoop, if_pos hlt, Recv.feed]
        split
        next => exact ih hbytes e
        next => rw [hn]; rfl
      | arrived data =>
        rw [esp32ReadLoop, if_pos hlt, Recv.feed]
        split
        next => rw [reading_of_nat, hn]; rfl
        next hgood =>
          have herrno : errno.broken = false := by
            simpa using fun h => hgood (.inr h)
          split
          next hlong =>
            rw [reading_of_nat, Feed.read_append_of_le (Nat.le_of_lt hlong)]
            have hlen : bytes + (len - bytes) = len := by omega
            simp [countFrom, ReadLine.feed, feed_leftOver errno herrno, hlen]
          next hshort =>
            have hmore : len - bytes = data.length + (len - (bytes + data.length)) := by omega
            have hrest := ih (show bytes + data.length ≤ len by omega) errno
            rw [hmore, Feed.read_append_add, countFrom_after, ← hrest]
            rfl

/-- A return value that is not a length is -1. -/
theorem le_esp32ReadLoop_code (len bytes : Nat) (errno : Errno) (incoming : List Recv) :
    -1 ≤ (esp32ReadLoop len bytes errno incoming).code := by
  fun_induction esp32ReadLoop len bytes errno incoming with
  | case1 | case4 => exact Int.le_refl _
  | case3 bytes errno e rest _ _ ih => exact ih
  | case8 bytes errno data rest _ _ _ _ ih => exact ih
  | case2 | case5 | case6 | case7 | case9 => exact Int.le_trans (by decide) (Int.natCast_nonneg _)

/-- **The line as a feed**: what `esp32_read` returns and writes depends on the bytes that come, and
on where the line pauses and ends, but not on the segments. -/
theorem esp32Read_feed (len : Nat) (l : ReadLine) :
    (esp32Read len l).reading = l.feed.read len := by
  obtain ⟨connected, errno, incoming⟩ := l
  cases connected with
  | true =>
    have hloop := esp32ReadLoop_feed len (Nat.zero_le len) errno incoming
    have hzero : ∀ r : Feed.Reading UInt8, countFrom 0 r = r := by
      intro r
      obtain ⟨count, items, rest⟩ := r
      cases count <;> simp [countFrom]
    rwa [hzero, Nat.sub_zero] at hloop
  | false => cases len <;> rfl

/-- An `mqttread` returns the length that was asked for when that much comes without a pause. -/
theorem esp32Read_code_eq_iff (len : Nat) (l : ReadLine) :
    (esp32Read len l).code = len ↔ len ≤ l.feed.front.length := by
  have hcode : -1 ≤ (esp32Read len l).code := by
    unfold esp32Read
    split
    · exact le_esp32ReadLoop_code len 0 l.errno l.incoming
    · show (-1 : Int) ≤ 0
      decide
  have hcount : (esp32Read len l).code = len ↔ (esp32Read len l).reading.count = some len := by
    simp only [MqttRead.reading]
    split
    next h => simp only [h, reduceCtorEq]
    next h => simp only [Option.some.injEq]; omega
  rw [hcount, esp32Read_feed, Feed.count_read_eq_iff]

/-- What an `mqttread` writes. -/
theorem esp32Read_written (len : Nat) (l : ReadLine) :
    (esp32Read len l).written = l.feed.arriving.take len := by
  rw [← Feed.items_read, ← esp32Read_feed]
  rfl

/-- What an `mqttread` leaves. -/
theorem esp32Read_line_feed (len : Nat) (l : ReadLine) :
    (esp32Read len l).line.feed = (l.feed.read len).rest := by
  rw [← esp32Read_feed]
  rfl

end Esp32Iot
