import ModelProbe.Grpc.Message
import ModelProbe.Wire.Field

/-! The bytes of the binary protocol's messages.

Fields are written in the order of their numbers and left out when they hold the default.
A reader takes them in any order: the last of a text wins, lists go on, and a tensor's
contents are merged. Fields it does not know are passed over; a field it knows must have
the right wire type, unless it is the map of parameters. -/
namespace ModelProbe.Grpc

open Wire

/-! ### Writing -/

/-- A signed integer as 64 bits of two's complement. -/
def twosComplement (n : Int) : Nat :=
  (n % UInt64.size).toNat

def packedInts (ns : List Int) : Bytes :=
  ns.flatMap fun n => varint (twosComplement n)

def Contents.encode (c : Contents) : Bytes :=
  delimitedUnlessEmpty 1 (c.bools.flatMap fun b => varint b.toNat) ++
  delimitedUnlessEmpty 2 (packedInts (c.ints.map Int32.toInt)) ++
  delimitedUnlessEmpty 3 (packedInts (c.ints64.map Int64.toInt)) ++
  delimitedUnlessEmpty 4 (c.uints.flatMap fun n => varint n.toNat) ++
  delimitedUnlessEmpty 5 (c.uints64.flatMap fun n => varint n.toNat) ++
  delimitedUnlessEmpty 6 (c.fp32.flatMap fun x => littleEndian 4 x.bits.toNat) ++
  delimitedUnlessEmpty 7 (c.fp64.flatMap fun x => littleEndian 8 x.bits.toNat) ++
  c.bytes.flatMap (delimited 8)

def TensorMessage.encode (t : TensorMessage) : Bytes :=
  delimitedUnlessEmpty 1 (utf8 t.name) ++
  delimitedUnlessEmpty 2 (utf8 t.datatype) ++
  delimitedUnlessEmpty 3 (packedInts (t.shape.map Int64.toInt)) ++
  (t.contents.toList.flatMap fun c => delimited 5 c.encode)

def RequestMessage.encode (m : RequestMessage) : Bytes :=
  delimitedUnlessEmpty 1 (utf8 m.modelName) ++
  delimitedUnlessEmpty 2 (utf8 m.modelVersion) ++
  delimitedUnlessEmpty 3 (utf8 m.id) ++
  m.inputs.flatMap fun t => delimited 5 t.encode

/-! ### Reading -/

/-- Reads the fields of a message, of which `maps` are maps, one after another into `m`. -/
def merge? {α : Type} (maps : List Nat) (room : Nat) (step : α → Field → Option α) (m : α)
    (bytes : Bytes) : Option α := do
  (← fields? maps room bytes).foldlM step m

/-- Checks the value of a parameter: a boolean, an integer or a text. -/
def parameterField? (_ : Unit) (f : Field) : Option Unit :=
  match f.number, f.payload with
  | 1, .varint _ | 2, .varint _ => some ()
  | 1, _ | 2, _ => none
  | 3, p => p.text?.map fun _ => ()
  | _, _ => some ()

/-- Checks an entry of the parameters: a text and the value it names. -/
def entryField? (room : Nat) (_ : Unit) (f : Field) : Option Unit :=
  match f.number with
  | 1 => f.payload.text?.map fun _ => ()
  | 2 => f.payload.bytes?.bind (merge? [] (room - 1) parameterField? ())
  | _ => some ()

/-- Checks the parameters of a message; nothing looks at them. -/
def parameters? (room : Nat) (p : Payload) : Option Unit :=
  p.bytes?.bind (merge? [] (room - 1) (entryField? (room - 1)) ())

def contentsField? (c : Contents) (f : Field) : Option Contents :=
  let p := f.payload
  match f.number with
  | 1 => p.varints?.map fun ns => { c with bools := c.bools ++ ns.map (· ≠ 0) }
  | 2 => p.varints?.map fun ns => { c with ints := c.ints ++ ns.map Int32.ofNat }
  | 3 => p.varints?.map fun ns => { c with ints64 := c.ints64 ++ ns.map Int64.ofNat }
  | 4 => p.varints?.map fun ns => { c with uints := c.uints ++ ns.map UInt32.ofNat }
  | 5 => p.varints?.map fun ns => { c with uints64 := c.uints64 ++ ns.map UInt64.ofNat }
  | 6 => p.fixed32s?.map fun ns => { c with fp32 := c.fp32 ++ ns.map fun n => ⟨UInt32.ofNat n⟩ }
  | 7 => p.fixed64s?.map fun ns => { c with fp64 := c.fp64 ++ ns.map fun n => ⟨UInt64.ofNat n⟩ }
  | 8 => p.bytes?.map fun b => { c with bytes := c.bytes ++ [b] }
  | _ => some c

def tensorField? (room : Nat) (t : TensorMessage) (f : Field) : Option TensorMessage :=
  let p := f.payload
  match f.number with
  | 1 => p.text?.map fun s => { t with name := s }
  | 2 => p.text?.map fun s => { t with datatype := s }
  | 3 => p.varints?.map fun ns => { t with shape := t.shape ++ ns.map Int64.ofNat }
  | 4 => (parameters? room p).map fun _ => t
  | 5 => do
    let c ← merge? [] (room - 1) contentsField? (t.contents.getD {}) (← p.bytes?)
    return { t with contents := some c }
  | _ => some t

def responseField? (room : Nat) (m : ResponseMessage) (f : Field) : Option ResponseMessage :=
  let p := f.payload
  match f.number with
  | 1 => p.text?.map fun s => { m with modelName := s }
  | 2 => p.text?.map fun s => { m with modelVersion := s }
  | 3 => p.text?.map fun s => { m with id := s }
  | 4 => (parameters? room p).map fun _ => m
  | 5 => do
    let t ← merge? [4] (room - 1) (tensorField? (room - 1)) {} (← p.bytes?)
    return { m with outputs := m.outputs ++ [t] }
  | 6 => p.bytes?.map fun b => { m with rawContents := m.rawContents ++ [b] }
  | _ => some m

/-- The response message that bytes encode. -/
def ResponseMessage.decode? (bytes : Bytes) : Option ResponseMessage :=
  merge? [4] maxDepth (responseField? maxDepth) {} bytes

end ModelProbe.Grpc
