import Mathlib.Data.Set.Operations
import Porter.Go.Bufio
import Porter.Go.Strconv

/-!
# The Redis wire format

The codec of `internal/cache/resp.go`.
-/
namespace Porter.Cache

open Go

inductive Reply where
  | nil
  | bytes (payload : List UInt8)
  | int (n : Int)
  | array (items : List Reply)

inductive ReplyError where
  | eof
  | unexpectedEOF
  | malformed (line : List UInt8)
  | empty
  | server (message : List UInt8)
  | badInteger (body : List UInt8)
  | badBulkLength (body : List UInt8)
  | badArrayLength (body : List UInt8)
  | unexpectedType (typ : UInt8)
  | makeslice
deriving DecidableEq

def ReplyError.text (quote : List UInt8 → List UInt8) (quoteByte : UInt8 → List UInt8) :
    ReplyError → List UInt8
  | .eof => ascii "EOF"
  | .unexpectedEOF => ascii "unexpected EOF"
  | .malformed line => ascii "resp: malformed line " ++ quote line
  | .empty => ascii "cache: empty RESP reply line"
  | .server message => message
  | .badInteger body => ascii "resp: bad integer reply " ++ quote body
  | .badBulkLength body => ascii "resp: bad bulk length " ++ quote body
  | .badArrayLength body => ascii "resp: bad array length " ++ quote body
  | .unexpectedType typ => ascii "resp: unexpected reply type " ++ quoteByte typ
  | .makeslice => ascii "runtime error: makeslice: len out of range"

def crlf : List UInt8 := ascii "\r\n"

def maxAlloc : Int := 2 ^ 48

def writeCommand (args : List (List UInt8)) : List UInt8 :=
  ascii "*" ++ itoa args.length ++ crlf ++
    args.flatMap (fun a => ascii "$" ++ itoa a.length ++ crlf ++ a ++ crlf)

def readCRLFLine (r : List UInt8) : Except ReplyError (List UInt8 × List UInt8) :=
  match readBytes '\n'.toUInt8 r with
  | none => .error .eof
  | some (whole, rest) =>
    if whole.length < 2 ∨ whole[whole.length - 2]? ≠ some '\r'.toUInt8 then
      .error (.malformed whole)
    else .ok (whole.take (whole.length - 2), rest)

theorem readCRLFLine_eq_ok {r line rest : List UInt8} (read : readCRLFLine r = .ok (line, rest)) :
    r = line ++ crlf ++ rest ∧ '\n'.toUInt8 ∉ line := by
  unfold readCRLFLine at read
  split at read
  · contradiction
  next whole after found =>
  split at read
  · contradiction
  next ends =>
  have ⟨long, mark⟩ := not_or.mp ends
  obtain ⟨rfl, rfl⟩ := Prod.mk.inj (Except.ok.inj read)
  obtain ⟨front, rfl, inside, rfl⟩ := readBytes_eq_some found
  rcases List.eq_nil_or_concat front with rfl | ⟨text, last, rfl⟩
  · exact absurd (by decide) long
  obtain rfl : last = '\r'.toUInt8 := by simpa using mark
  have kept : (text.concat '\r'.toUInt8 ++ ['\n'.toUInt8]).take
      ((text.concat '\r'.toUInt8 ++ ['\n'.toUInt8]).length - 2) = text := by simp
  rw [List.concat_eq_append] at inside kept ⊢
  rw [kept]
  refine ⟨?_, fun member => inside (List.mem_append_left _ member)⟩
  rw [List.append_assoc, List.append_assoc]
  rfl

theorem readCRLFLine_shorter {r line rest : List UInt8} (read : readCRLFLine r = .ok (line, rest)) :
    rest.length < r.length := by
  rw [(readCRLFLine_eq_ok read).1, List.length_append, List.length_append]
  exact Nat.lt_add_of_pos_left (Nat.lt_of_lt_of_le (by decide) (Nat.le_add_left _ _))

def ReplyError.ofRead : ShortRead → ReplyError
  | .eof => .eof
  | .unexpectedEOF => .unexpectedEOF

mutual

def readNext (r : List UInt8) :
    Except ReplyError (Reply × { rest : List UInt8 // rest.length < r.length }) :=
  match line : readCRLFLine r with
  | .error err => .error err
  | .ok ([], _) => .error .empty
  | .ok (typ :: body, rest) =>
    have shorter : rest.length < r.length := readCRLFLine_shorter line
    if typ = '+'.toUInt8 then .ok (.bytes body, ⟨rest, shorter⟩)
    else if typ = '-'.toUInt8 then .error (.server body)
    else if typ = ':'.toUInt8 then
      match atoi body with
      | none => .error (.badInteger body)
      | some n => .ok (.int n, ⟨rest, shorter⟩)
    else if typ = '$'.toUInt8 then
      match atoi body with
      | none => .error (.badBulkLength body)
      | some n =>
        if n < 0 then .ok (.nil, ⟨rest, shorter⟩)
        else if n + 2 > maxAlloc then .error .makeslice
        else
          match full : readFull (n.toNat + 2) rest with
          | .error err => .error (.ofRead err)
          | .ok (buf, after) =>
            have within : after.length < r.length := by
              have parts := congrArg List.length (readFull_eq_ok full)
              rw [List.length_append] at parts
              omega
            .ok (.bytes (buf.take n.toNat), ⟨after, within⟩)
    else if typ = '*'.toUInt8 then
      match atoi body with
      | none => .error (.badArrayLength body)
      | some n =>
        if n < 0 then .ok (.nil, ⟨rest, shorter⟩)
        else if n * 16 > maxAlloc then .error .makeslice
        else
          match readItems n.toNat rest with
          | .error err => .error err
          | .ok (out, ⟨after, within⟩) => .ok (.array out, ⟨after, by omega⟩)
    else .error (.unexpectedType typ)
termination_by (r.length, 0)

def readItems (n : Nat) (r : List UInt8) :
    Except ReplyError (List Reply × { rest : List UInt8 // rest.length ≤ r.length }) :=
  match n with
  | 0 => .ok ([], ⟨r, Nat.le_refl _⟩)
  | n + 1 =>
    match readNext r with
    | .error err => .error err
    | .ok (v, ⟨rest, shorter⟩) =>
      match readItems n rest with
      | .error err => .error err
      | .ok (out, ⟨after, within⟩) => .ok (v :: out, ⟨after, by omega⟩)
termination_by (r.length, 1)

end

def readReply (r : List UInt8) : Except ReplyError (Reply × List UInt8) :=
  (readNext r).map (fun read => (read.1, read.2.val))

def readReplies (n : Nat) (r : List UInt8) : Except ReplyError (List Reply × List UInt8) :=
  (readItems n r).map (fun read => (read.1, read.2.val))

def readBody (typ : UInt8) (body rest : List UInt8) : Except ReplyError (Reply × List UInt8) :=
  if typ = '+'.toUInt8 then .ok (.bytes body, rest)
  else if typ = '-'.toUInt8 then .error (.server body)
  else if typ = ':'.toUInt8 then
    match atoi body with
    | none => .error (.badInteger body)
    | some n => .ok (.int n, rest)
  else if typ = '$'.toUInt8 then
    match atoi body with
    | none => .error (.badBulkLength body)
    | some n =>
      if n < 0 then .ok (.nil, rest)
      else if n + 2 > maxAlloc then .error .makeslice
      else
        match readFull (n.toNat + 2) rest with
        | .error err => .error (.ofRead err)
        | .ok (buf, after) => .ok (.bytes (buf.take n.toNat), after)
  else if typ = '*'.toUInt8 then
    match atoi body with
    | none => .error (.badArrayLength body)
    | some n =>
      if n < 0 then .ok (.nil, rest)
      else if n * 16 > maxAlloc then .error .makeslice
      else
        match readReplies n.toNat rest with
        | .error err => .error err
        | .ok (out, after) => .ok (.array out, after)
  else .error (.unexpectedType typ)

theorem readReply_nil : readReply [] = .error .eof := by
  unfold readReply
  rw [readNext]
  rfl

theorem readReply_line {r body rest : List UInt8} {typ : UInt8}
    (line : readCRLFLine r = .ok (typ :: body, rest)) :
    readReply r = readBody typ body rest := by
  unfold readReply readBody readReplies
  rw [readNext]
  split
  · rename_i failed
    rw [line] at failed
    contradiction
  · rename_i blank
    rw [line] at blank
    cases blank
  · rename_i typ' body' rest' found
    rw [line] at found
    cases found
    by_cases simple : typ = '+'.toUInt8
    · rw [if_pos simple, if_pos simple]
      rfl
    rw [if_neg simple, if_neg simple]
    by_cases refused : typ = '-'.toUInt8
    · rw [if_pos refused, if_pos refused]
      rfl
    rw [if_neg refused, if_neg refused]
    by_cases integer : typ = ':'.toUInt8
    · rw [if_pos integer, if_pos integer]
      cases atoi body <;> rfl
    rw [if_neg integer, if_neg integer]
    by_cases bulk : typ = '$'.toUInt8
    · rw [if_pos bulk, if_pos bulk]
      cases atoi body with
      | none => rfl
      | some n =>
        simp only
        split
        · rfl
        · split
          · rfl
          · split
            · rename_i full
              simp only [Except.map, full]
            · rename_i full
              simp only [Except.map, full]
    rw [if_neg bulk, if_neg bulk]
    by_cases array : typ = '*'.toUInt8
    · rw [if_pos array, if_pos array]
      cases atoi body with
      | none => rfl
      | some n =>
        simp only
        split
        · rfl
        · split
          · rfl
          · cases readItems n.toNat rest <;> rfl
    · rw [if_neg array, if_neg array]
      rfl

@[simp] theorem readReplies_zero (r : List UInt8) : readReplies 0 r = .ok ([], r) := by
  unfold readReplies
  rw [readItems]
  rfl

theorem readReplies_succ (n : Nat) (r : List UInt8) :
    readReplies (n + 1) r =
      match readReply r with
      | .error err => .error err
      | .ok (v, rest) =>
        match readReplies n rest with
        | .error err => .error err
        | .ok (out, after) => .ok (v :: out, after) := by
  unfold readReplies readReply
  rw [readItems]
  cases readNext r with
  | error err => rfl
  | ok read =>
    obtain ⟨v, rest, shorter⟩ := read
    simp only [Except.map]
    cases readItems n rest <;> rfl

inductive Wire where
  | simple (text : List UInt8)
  | error (message : List UInt8)
  | int (n : Int)
  | bulk (payload : List UInt8)
  | nullBulk
  | nullArray
  | array (items : List Wire)

mutual

def Wire.encode : Wire → List UInt8
  | .simple text => ascii "+" ++ text ++ crlf
  | .error message => ascii "-" ++ message ++ crlf
  | .int n => ascii ":" ++ itoa n ++ crlf
  | .bulk payload => ascii "$" ++ itoa payload.length ++ crlf ++ payload ++ crlf
  | .nullBulk => ascii "$-1" ++ crlf
  | .nullArray => ascii "*-1" ++ crlf
  | .array items => ascii "*" ++ itoa items.length ++ crlf ++ Wire.encodeAll items

def Wire.encodeAll : List Wire → List UInt8
  | [] => []
  | item :: rest => item.encode ++ Wire.encodeAll rest

end

mutual

/-- Lines are free of line ends, integers have 64 bits and lengths stay below `2 ^ 31`. -/
def Wire.WellFormed : Wire → Prop
  | .simple text => '\n'.toUInt8 ∉ text ∧ '\r'.toUInt8 ∉ text
  | .error message => '\n'.toUInt8 ∉ message ∧ '\r'.toUInt8 ∉ message
  | .int n => Int64Range n
  | .bulk payload => payload.length < 2 ^ 31
  | .nullBulk => True
  | .nullArray => True
  | .array items => items.length < 2 ^ 31 ∧ Wire.AllWellFormed items

def Wire.AllWellFormed : List Wire → Prop
  | [] => True
  | item :: rest => item.WellFormed ∧ Wire.AllWellFormed rest

end

mutual

def Wire.value : Wire → Except ReplyError Reply
  | .simple text => .ok (.bytes text)
  | .error message => .error (.server message)
  | .int n => .ok (.int n)
  | .bulk payload => .ok (.bytes payload)
  | .nullBulk => .ok .nil
  | .nullArray => .ok .nil
  | .array items => (Wire.values items).map .array

def Wire.values : List Wire → Except ReplyError (List Reply)
  | [] => .ok []
  | item :: rest =>
    match item.value with
    | .error err => .error err
    | .ok v => (Wire.values rest).map (v :: ·)

end

theorem readCRLFLine_append {line : List UInt8} (inside : '\n'.toUInt8 ∉ line)
    (rest : List UInt8) : readCRLFLine (line ++ crlf ++ rest) = .ok (line, rest) := by
  have ends : line ++ crlf ++ rest = (line ++ ['\r'.toUInt8]) ++ '\n'.toUInt8 :: rest := by
    simp only [List.append_assoc]
    rfl
  have apart : '\n'.toUInt8 ∉ line ++ ['\r'.toUInt8] := by
    intro member
    rcases List.mem_append.mp member with early | last
    · exact inside early
    · exact absurd (List.mem_singleton.mp last) (by decide)
  unfold readCRLFLine
  rw [ends, readBytes_append apart]
  simp

theorem readReply_marked {mark : UInt8} (marked : '\n'.toUInt8 ≠ mark) {text : List UInt8}
    (inside : '\n'.toUInt8 ∉ text) (rest : List UInt8) :
    readReply (mark :: text ++ crlf ++ rest) = readBody mark text rest := by
  apply readReply_line
  apply readCRLFLine_append
  intro member
  rcases List.mem_cons.mp member with first | later
  · exact marked first
  · exact inside later

theorem readReply_number (mark : UInt8) (n : Int) (rest : List UInt8)
    (signed : mark ≠ '\n'.toUInt8) :
    readReply (mark :: itoa n ++ crlf ++ rest) = readBody mark (itoa n) rest :=
  readReply_marked signed.symm (fun member => absurd (le_of_mem_itoa member) (by decide)) rest

theorem int64Range_of_length {n : Nat} (small : n < 2 ^ 31) : Int64Range n := by
  constructor <;> omega

theorem readReply_int {n : Int} (fits : Int64Range n) (rest : List UInt8) :
    readReply ((Wire.int n).encode ++ rest) = .ok (.int n, rest) := by
  have line := readReply_number ':'.toUInt8 n rest (by decide)
  unfold readBody at line
  simp only [atoi_itoa fits] at line
  exact line

theorem readReply_bulk {payload : List UInt8} (small : payload.length < 2 ^ 31)
    (rest : List UInt8) :
    readReply ((Wire.bulk payload).encode ++ rest) = .ok (.bytes payload, rest) := by
  have line := readReply_number '$'.toUInt8 payload.length ((payload ++ crlf) ++ rest) (by decide)
  have full : readFull (payload.length + 2) ((payload ++ crlf) ++ rest) =
      .ok (payload ++ crlf, rest) := by
    have whole := readFull_append (payload ++ crlf) rest
    rw [List.length_append] at whole
    exact whole
  have natural : ¬ (payload.length : Int) < 0 := by omega
  have allocated : ¬ (payload.length : Int) + 2 > maxAlloc := by
    unfold maxAlloc
    omega
  unfold readBody at line
  simp only [atoi_itoa (int64Range_of_length small), natural, allocated, Int.toNat_natCast, full,
    List.take_left, if_false] at line
  have shape : (Wire.bulk payload).encode ++ rest =
      '$'.toUInt8 :: itoa payload.length ++ crlf ++ ((payload ++ crlf) ++ rest) := by
    simp only [Wire.encode, List.append_assoc]
    rfl
  rw [shape, line]
  rfl

theorem readReply_array {items : List Wire} (small : items.length < 2 ^ 31) (rest : List UInt8) :
    readReply ((Wire.array items).encode ++ rest) =
      match readReplies items.length (Wire.encodeAll items ++ rest) with
      | .error err => .error err
      | .ok (out, after) => .ok (.array out, after) := by
  have line := readReply_number '*'.toUInt8 items.length (Wire.encodeAll items ++ rest) (by decide)
  have natural : ¬ (items.length : Int) < 0 := by omega
  have allocated : ¬ (items.length : Int) * 16 > maxAlloc := by
    unfold maxAlloc
    omega
  unfold readBody at line
  simp only [atoi_itoa (int64Range_of_length small), natural, allocated, Int.toNat_natCast,
    if_false] at line
  have shape : (Wire.array items).encode ++ rest =
      '*'.toUInt8 :: itoa items.length ++ crlf ++ (Wire.encodeAll items ++ rest) := by
    simp only [Wire.encode, List.append_assoc]
    rfl
  rw [shape, line]
  rfl

theorem readReply_null (mark : UInt8) (rest : List UInt8)
    (null : mark = '$'.toUInt8 ∨ mark = '*'.toUInt8) :
    readReply (mark :: itoa (-1) ++ crlf ++ rest) = .ok (.nil, rest) := by
  have read : atoi (itoa (-1)) = some (-1) := atoi_itoa (by decide)
  rcases null with rfl | rfl
  · rw [readReply_number _ _ _ (by decide)]
    unfold readBody
    simp only [read]
    rfl
  · rw [readReply_number _ _ _ (by decide)]
    unfold readBody
    simp only [read]
    rfl

mutual

theorem readReply_encode : (w : Wire) → w.WellFormed → ∀ rest : List UInt8,
    readReply (w.encode ++ rest) = w.value.map (·, rest)
  | .simple text, formed, rest => readReply_marked (by decide) formed.1 rest
  | .error message, formed, rest => readReply_marked (by decide) formed.1 rest
  | .int n, formed, rest => readReply_int formed rest
  | .bulk payload, formed, rest => readReply_bulk formed rest
  | .nullBulk, _, rest => readReply_null '$'.toUInt8 rest (Or.inl rfl)
  | .nullArray, _, rest => readReply_null '*'.toUInt8 rest (Or.inr rfl)
  | .array items, formed, rest => by
    rw [readReply_array formed.1, readReplies_encode _ formed.2 rest]
    simp only [Wire.value]
    cases Wire.values items <;> rfl

theorem readReplies_encode : (items : List Wire) → Wire.AllWellFormed items →
    ∀ rest : List UInt8, readReplies items.length (Wire.encodeAll items ++ rest) =
      (Wire.values items).map (·, rest)
  | [], _, rest => by simp [Wire.encodeAll, Wire.values, Except.map]
  | item :: later, formed, rest => by
    rw [List.length_cons, readReplies_succ, Wire.encodeAll, List.append_assoc,
      readReply_encode item formed.1]
    simp only [Wire.values]
    cases item.value with
    | error err => rfl
    | ok v =>
      simp only [Except.map, readReplies_encode later formed.2 rest]
      cases Wire.values later <;> rfl

end

mutual

def Reply.canonical : Reply → Wire
  | .nil => .nullBulk
  | .bytes payload => .bulk payload
  | .int n => .int n
  | .array items => .array (Reply.canonicals items)

def Reply.canonicals : List Reply → List Wire
  | [] => []
  | item :: rest => item.canonical :: Reply.canonicals rest

end

mutual

def Reply.Sized : Reply → Prop
  | .nil => True
  | .bytes payload => payload.length < 2 ^ 31
  | .int n => Int64Range n
  | .array items => items.length < 2 ^ 31 ∧ Reply.AllSized items

def Reply.AllSized : List Reply → Prop
  | [] => True
  | item :: rest => item.Sized ∧ Reply.AllSized rest

end

theorem Reply.length_canonicals (items : List Reply) :
    (Reply.canonicals items).length = items.length := by
  induction items with
  | nil => rfl
  | cons item rest recurse => rw [Reply.canonicals, List.length_cons, recurse, List.length_cons]

mutual

theorem Reply.canonical_wellFormed : (v : Reply) → v.Sized → v.canonical.WellFormed
  | .nil, _ => trivial
  | .bytes _, sized => sized
  | .int _, sized => sized
  | .array items, sized =>
    ⟨(Reply.length_canonicals items).symm ▸ sized.1,
      Reply.canonicals_wellFormed items sized.2⟩

theorem Reply.canonicals_wellFormed : (items : List Reply) → Reply.AllSized items →
    Wire.AllWellFormed (Reply.canonicals items)
  | [], _ => trivial
  | item :: rest, sized =>
    ⟨Reply.canonical_wellFormed item sized.1, Reply.canonicals_wellFormed rest sized.2⟩

end

mutual

theorem Reply.value_canonical : (v : Reply) → v.canonical.value = .ok v
  | .nil => rfl
  | .bytes _ => rfl
  | .int _ => rfl
  | .array items => by rw [Reply.canonical, Wire.value, Reply.values_canonicals items]; rfl

theorem Reply.values_canonicals : (items : List Reply) →
    Wire.values (Reply.canonicals items) = .ok items
  | [] => rfl
  | item :: rest => by
    rw [Reply.canonicals, Wire.values, Reply.value_canonical _, Reply.values_canonicals _]
    rfl

end

theorem writeCommand_eq (args : List (List UInt8)) :
    writeCommand args = (Reply.array (args.map .bytes)).canonical.encode := by
  have items : ∀ rest : List (List UInt8),
      rest.flatMap (fun a => ascii "$" ++ itoa a.length ++ crlf ++ a ++ crlf) =
        Wire.encodeAll (Reply.canonicals (rest.map .bytes)) := by
    intro rest
    induction rest with
    | nil => rfl
    | cons a later recurse => rw [List.flatMap_cons, recurse]; rfl
  rw [Reply.canonical, Wire.encode, Reply.length_canonicals, List.length_map, ← items args]
  rfl

theorem allSized_args {args : List (List UInt8)} (small : ∀ a ∈ args, a.length < 2 ^ 31) :
    Reply.AllSized (args.map .bytes) := by
  induction args with
  | nil => trivial
  | cons a later recurse =>
    exact ⟨small a List.mem_cons_self,
      recurse (fun b member => small b (List.mem_cons_of_mem _ member))⟩

theorem readReply_canonical {v : Reply} (sized : v.Sized) (rest : List UInt8) :
    readReply (v.canonical.encode ++ rest) = .ok (v, rest) := by
  rw [readReply_encode v.canonical (v.canonical_wellFormed sized) rest, v.value_canonical]
  rfl

/-- Commands are read back as the array of their arguments and nested values as themselves; in both
cases exactly what follows is left unread. -/
theorem readReply_roundtrip (rest : List UInt8) :
    (∀ args : List (List UInt8), args.length < 2 ^ 31 → (∀ a ∈ args, a.length < 2 ^ 31) →
      readReply (writeCommand args ++ rest) = .ok (.array (args.map .bytes), rest)) ∧
    ∀ v : Reply, v.Sized → readReply (v.canonical.encode ++ rest) = .ok (v, rest) := by
  constructor
  · intro args few small
    have sized : (Reply.array (args.map .bytes)).Sized :=
      ⟨by rw [List.length_map]; exact few, allSized_args small⟩
    rw [writeCommand_eq]
    exact readReply_canonical sized rest
  · intro v sized
    exact readReply_canonical sized rest

theorem readReply_roundtrip_nested :
    readReply (writeCommand [ascii "SET", ascii "k", ascii "$1\r\nx\r\n"] ++ ascii "+OK\r\n") =
      .ok (.array [.bytes (ascii "SET"), .bytes (ascii "k"), .bytes (ascii "$1\r\nx\r\n")],
        ascii "+OK\r\n") ∧
    readReply ((Reply.array [.int (-7), .array [.nil, .bytes []]]).canonical.encode ++
      ascii "+OK\r\n") = .ok (.array [.int (-7), .array [.nil, .bytes []]], ascii "+OK\r\n") := by
  constructor
  · exact (readReply_roundtrip (ascii "+OK\r\n")).1 _ (by decide) (by decide)
  · apply (readReply_roundtrip (ascii "+OK\r\n")).2
    have number : (Reply.int (-7)).Sized := by
      show Int64Range (-7)
      decide
    have empty : (Reply.bytes []).Sized := by
      show ([] : List UInt8).length < 2 ^ 31
      decide
    exact ⟨by decide, number, ⟨by decide, trivial, empty, trivial⟩, trivial⟩

def Sendable (args : List (List UInt8)) : Prop :=
  args.length < 2 ^ 31 ∧ ∀ a ∈ args, a.length < 2 ^ 31

theorem readReply_command {args : List (List UInt8)} (sendable : Sendable args)
    (rest : List UInt8) :
    readReply (writeCommand args ++ rest) = .ok (.array (args.map .bytes), rest) := by
  have sized : (Reply.array (args.map .bytes)).Sized :=
    ⟨by rw [List.length_map]; exact sendable.1, allSized_args sendable.2⟩
  rw [writeCommand_eq]
  exact readReply_canonical sized rest

/-- What a connection has sent determines the commands, whatever bytes their arguments hold. -/
theorem commands_injOn :
    Set.InjOn (List.flatMap writeCommand) {commands | ∀ args ∈ commands, Sendable args} := by
  intro commands
  induction commands with
  | nil =>
    rintro - others sendable same
    cases others with
    | nil => rfl
    | cons args rest =>
      have read := readReply_command (sendable args List.mem_cons_self) (rest.flatMap writeCommand)
      rw [← List.flatMap_cons, ← same] at read
      cases readReply_nil.symm.trans read
  | cons args rest recurse =>
    intro sendable others fits same
    have read := readReply_command (sendable args List.mem_cons_self) (rest.flatMap writeCommand)
    rw [← List.flatMap_cons, same] at read
    cases others with
    | nil => cases readReply_nil.symm.trans read
    | cons other more =>
      have reread := readReply_command (fits other List.mem_cons_self) (more.flatMap writeCommand)
      rw [← List.flatMap_cons, read] at reread
      obtain ⟨first, later⟩ := Prod.mk.inj (Except.ok.inj reread)
      rw [(List.map_injective_iff.mpr fun _ _ => Reply.bytes.inj) (Reply.array.inj first),
        recurse (fun args member => sendable args (List.mem_cons_of_mem _ member))
          (fun args member => fits args (List.mem_cons_of_mem _ member)) later]

theorem readFull_length {n : Nat} {stream front rest : List UInt8}
    (read : readFull n stream = .ok (front, rest)) : front.length = n := by
  unfold readFull at read
  split at read
  next enough =>
    obtain ⟨rfl, rfl⟩ := Prod.mk.inj (Except.ok.inj read)
    exact List.length_take_of_le enough
  · split at read
    · contradiction
    · contradiction

def Digits (body : List UInt8) : Prop := ∀ b ∈ body, '0'.toUInt8 ≤ b ∧ b ≤ '9'.toUInt8

mutual

/-- The bytes of a reply that is no error: by the rules if strict, else as the client looks at
them. -/
inductive Frame (strict : Bool) : List UInt8 → Prop
  | simple {text : List UInt8} (inside : '\n'.toUInt8 ∉ text)
    (bare : strict = true → '\r'.toUInt8 ∉ text) : Frame strict ('+'.toUInt8 :: text ++ crlf)
  | int {body : List UInt8} {n : Int} (read : atoi body = some n) :
    Frame strict (':'.toUInt8 :: body ++ crlf)
  | null {mark : UInt8} {body : List UInt8} {n : Int}
    (kind : mark = '$'.toUInt8 ∨ mark = '*'.toUInt8) (read : atoi body = some n) (below : n < 0)
    (one : strict = true → body = ascii "-1") : Frame strict (mark :: body ++ crlf)
  | bulk {body payload ending : List UInt8} (read : atoi body = some (payload.length : Int))
    (two : ending.length = 2) (digits : strict = true → Digits body)
    (ended : strict = true → ending = crlf) :
    Frame strict ('$'.toUInt8 :: body ++ crlf ++ (payload ++ ending))
  | array {body items : List UInt8} {n : Nat} (read : atoi body = some (n : Int))
    (digits : strict = true → Digits body) (each : Frames strict n items) :
    Frame strict ('*'.toUInt8 :: body ++ crlf ++ items)

inductive Frames (strict : Bool) : Nat → List UInt8 → Prop
  | nil : Frames strict 0 []
  | cons {n : Nat} {first rest : List UInt8} (one : Frame strict first)
    (others : Frames strict n rest) : Frames strict (n + 1) (first ++ rest)

end

def Oversized (r : List UInt8) : Prop :=
  ∃ front typ body rest n, r = front ++ (typ :: body ++ crlf ++ rest) ∧ atoi body = some n ∧
    ((typ = '$'.toUInt8 ∧ n + 2 > maxAlloc) ∨ (typ = '*'.toUInt8 ∧ n * 16 > maxAlloc))

theorem Oversized.append {r : List UInt8} (front : List UInt8) (large : Oversized r) :
    Oversized (front ++ r) := by
  obtain ⟨before, typ, body, rest, n, rfl, announced⟩ := large
  exact ⟨front ++ before, typ, body, rest, n, (List.append_assoc ..).symm, announced⟩

/-- The client has taken bytes of the kind, and panicked only on a length that is too large. -/
def Accounted {α : Type} (kind : List UInt8 → Prop) (r : List UInt8) :
    Except ReplyError (α × List UInt8) → Prop
  | .ok (_, rest) => ∃ taken, r = taken ++ rest ∧ kind taken
  | .error .makeslice => Oversized r
  | .error _ => True

theorem accounted_readReplies {r : List UInt8}
    (each : ∀ s : List UInt8, s.length ≤ r.length → Accounted (Frame false) s (readReply s))
    (n : Nat) : Accounted (Frames false n) r (readReplies n r) := by
  induction n generalizing r with
  | zero =>
    rw [readReplies_zero]
    exact ⟨[], rfl, .nil⟩
  | succ n recurse =>
    have first := each r (Nat.le_refl _)
    rw [readReplies_succ]
    cases read : readReply r with
    | error err =>
      rw [read] at first
      cases err <;> exact first
    | ok found =>
      rw [read] at first
      obtain ⟨taken, rfl, one⟩ := first
      have later : Accounted (Frames false n) found.2 (readReplies n found.2) := by
        apply recurse
        intro s short
        exact each s (by rw [List.length_append]; omega)
      simp only
      cases others : readReplies n found.2 with
      | error err =>
        rw [others] at later
        cases err with
        | makeslice => exact Oversized.append taken later
        | _ => trivial
      | ok more =>
        rw [others] at later
        obtain ⟨frames, split, all⟩ := later
        refine ⟨taken ++ frames, ?_, .cons one all⟩
        rw [split, List.append_assoc]

theorem accounted_readBody {typ : UInt8} {body rest : List UInt8} (inside : '\n'.toUInt8 ∉ body)
    (each : ∀ s : List UInt8, s.length ≤ rest.length → Accounted (Frame false) s (readReply s)) :
    Accounted (Frame false) (typ :: body ++ crlf ++ rest) (readBody typ body rest) := by
  unfold readBody
  split
  next kind =>
    rw [kind]
    exact ⟨_, rfl, .simple inside nofun⟩
  split
  · trivial
  split
  next kind =>
    rw [kind]
    cases read : atoi body with
    | none => trivial
    | some n => exact ⟨_, rfl, .int read⟩
  split
  next kind =>
    cases read : atoi body with
    | none => trivial
    | some n =>
      simp only
      split
      next below => exact ⟨_, rfl, .null (Or.inl kind) read below nofun⟩
      split
      next large => exact ⟨[], typ, body, rest, n, rfl, read, Or.inl ⟨kind, large⟩⟩
      next natural _ =>
      cases full : readFull (n.toNat + 2) rest with
      | error err => cases err <;> trivial
      | ok found =>
        have length : found.1.length = n.toNat + 2 := readFull_length full
        have exactly_ : atoi body = some ((found.1.take n.toNat).length : Int) := by
          rw [read, List.length_take, length]
          congr 1
          omega
        refine ⟨'$'.toUInt8 :: body ++ crlf ++ (found.1.take n.toNat ++ found.1.drop n.toNat), ?_,
          .bulk exactly_ (by rw [List.length_drop]; omega) nofun nofun⟩
        rw [kind, List.take_append_drop, List.append_assoc _ found.1, ← readFull_eq_ok full]
  split
  next kind =>
    cases read : atoi body with
    | none => trivial
    | some n =>
      simp only
      split
      next below => exact ⟨_, rfl, .null (Or.inr kind) read below nofun⟩
      split
      next large => exact ⟨[], typ, body, rest, n, rfl, read, Or.inr ⟨kind, large⟩⟩
      next natural _ =>
      have items := accounted_readReplies each n.toNat
      cases replies : readReplies n.toNat rest with
      | error err =>
        rw [replies] at items
        cases err with
        | makeslice => exact Oversized.append _ items
        | _ => trivial
      | ok found =>
        rw [replies] at items
        obtain ⟨frames, split, all⟩ := items
        have exactly_ : atoi body = some (n.toNat : Int) := by
          rw [read]
          congr 1
          omega
        refine ⟨'*'.toUInt8 :: body ++ crlf ++ frames, ?_, .array exactly_ nofun all⟩
        rw [kind, split, List.append_assoc _ frames]
  · trivial

theorem accounted_readReply (r : List UInt8) : Accounted (Frame false) r (readReply r) := by
  cases line : readCRLFLine r with
  | error err =>
    have failed : readReply r = .error err := by
      unfold readReply
      rw [readNext]
      split <;> simp_all [Except.map]
    rw [failed]
    cases err with
    | makeslice =>
      unfold readCRLFLine at line
      split at line
      · cases line
      · split at line <;> cases line
    | _ => trivial
  | ok found =>
    obtain ⟨_ | ⟨typ, body⟩, rest⟩ := found
    · have empty : readReply r = .error .empty := by
        unfold readReply
        rw [readNext]
        split <;> simp_all [Except.map]
      rw [empty]
      trivial
    · rw [readReply_line line]
      have shorter := readCRLFLine_shorter line
      obtain ⟨rfl, inside⟩ := readCRLFLine_eq_ok line
      exact accounted_readBody (fun member => inside (List.mem_cons_of_mem _ member))
        (fun s short => accounted_readReply s)
termination_by r.length

end Porter.Cache
