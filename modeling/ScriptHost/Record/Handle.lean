import ScriptHost.Record.Basic

/-!
# Records behind handles

Compiled code holds records by handles and passes keys as pointers to bytes, any of which may be
null. It learns of a failure by a null handle or by the status 0, and a call that fails changes
nothing.

* `ByteRecord` — a record with byte keys and 64-bit values.
* `KeyPointer`, `OutSlot` — a key, and the place for a found value, as compiled code passes them.
* `ByteRecord.make?` — a record from arrays and counts.
* `Handles` — the live records by handle.
* `Handles.Request`, `Handles.Reply`, `Handles.serve`, `Handles.run` — the calls.
-/

namespace ScriptHost

open Text (ByteText)

/-- A record as compiled code uses it. -/
abbrev ByteRecord := Record ByteText Int64

/-- The bytes at a pointer to a key, or nothing for a null pointer. -/
abbrev KeyPointer := Option (List UInt8)

/-- A key ends at its first zero byte. -/
def KeyPointer.key? (p : KeyPointer) : Option ByteText := p.map ByteText.upToZero

/-- The keys at several pointers, or nothing if one is null. -/
def KeyPointer.keys? : List KeyPointer → Option (List ByteText)
  | [] => some []
  | p :: ps => do
    let k ← p.key?
    let ks ← keys? ps
    return k :: ks

/-- The first `count` members of an array that may be null. A null array has no members, and so
none can be asked for. -/
def leading? {α : Type _} (array : Option (List α)) (count : Nat) : Option (List α) :=
  match array with
  | some xs => some (xs.take count)
  | none => if count = 0 then some [] else none

/-- The record of two arrays. There is none if an array that is needed or a key is null, or if
the counts differ. -/
def ByteRecord.make? (keys : Option (List KeyPointer)) (values : Option (List Int64))
    (keyCount valueCount : Nat) : Option ByteRecord := do
  let pointers ← leading? keys keyCount
  let vs ← leading? values valueCount
  let ks ← KeyPointer.keys? pointers
  match Record.ofColumns ks vs with
  | .ok r => return r
  | .error _ => none

/-- The place where a found value is written. -/
structure OutSlot where
  value : Int64
  /-- Whether the pointer to the place is null. -/
  isNull : Bool

/-- The live records, each with its handle. A handle that is not listed is null. -/
structure Handles where
  live : List (String × ByteRecord)

namespace Handles

/-- No live records. -/
def empty : Handles := ⟨[]⟩

/-- The record behind a handle. -/
def find? (t : Handles) (h : String) : Option ByteRecord :=
  (t.live.find? (·.1 == h)).map (·.2)

/-- The table without a handle. -/
def erase (t : Handles) (h : String) : Handles := ⟨t.live.filter (·.1 != h)⟩

/-- The table with a record behind a handle. -/
def insert (t : Handles) (h : String) (r : ByteRecord) : Handles :=
  ⟨(h, r) :: (t.erase h).live⟩

/-- A call of compiled code. -/
inductive Request where
  /-- Frees what the handle held and makes a record for it. -/
  | make (h : String) (keys : Option (List KeyPointer)) (values : Option (List Int64))
      (keyCount valueCount : Nat)
  | get (h : String) (key : KeyPointer) (out : OutSlot)
  | set (h : String) (key : KeyPointer) (value : Int64)
  | add (h : String) (key : KeyPointer) (value : Int64)
  | size (h : String)
  | free (h : String)
  /-- Shows the record. -/
  | dump (h : String)

/-- What a call returns. -/
inductive Reply where
  | made (isNull : Bool)
  | status (ok : Bool)
  /-- A status, and what the place for the value holds afterwards. -/
  | found (ok : Bool) (out : Int64)
  | count (n : Nat)
  | done
  | dumped (r : Option ByteRecord)

/-- The value of a key, if neither the handle nor the key is null and the key is there. -/
def lookup? (t : Handles) (h : String) (key : KeyPointer) : Option Int64 := do
  let r ← t.find? h
  let k ← key.key?
  r.get? k

/-- Puts a changed record behind its handle if the change worked. -/
def update (t : Handles) (h : String) (key : KeyPointer)
    (change : ByteRecord → ByteText → Except MissingKey ByteRecord) : Reply × Handles :=
  match t.find? h, key.key? with
  | some r, some k =>
    match change r k with
    | .ok r' => (.status true, t.insert h r')
    | .error _ => (.status false, t)
  | _, _ => (.status false, t)

/-- One call. -/
def serve (t : Handles) : Request → Reply × Handles
  | .make h keys values keyCount valueCount =>
    match ByteRecord.make? keys values keyCount valueCount with
    | some r => (.made false, t.insert h r)
    | none => (.made true, t.erase h)
  | .get h key out =>
    match out.isNull, t.lookup? h key with
    | false, some a => (.found true a, t)
    | _, _ => (.found false out.value, t)
  | .set h key a => t.update h key fun r k => r.set k a
  | .add h key a => t.update h key fun r k => .ok (r.add k a)
  | .size h => (.count ((t.find? h).elim 0 (·.size)), t)
  | .free h => (.done, t.erase h)
  | .dump h => (.dumped (t.find? h), t)

/-- A sequence of calls, with the replies in order. -/
def run (t : Handles) : List Request → List Reply × Handles
  | [] => ([], t)
  | q :: qs =>
    let (a, t') := t.serve q
    let (as, t'') := t'.run qs
    (a :: as, t'')

end Handles

end ScriptHost
