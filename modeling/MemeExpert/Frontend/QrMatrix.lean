import MemeExpert.Lib.Bits
import MemeExpert.Lib.Grids

/-! The encoder of the login codes: byte mode at the lowest level of error correction, in
versions 1 to 6, always with the first mask. -/

namespace MemeExpert.Frontend

open Bits Grids

/-- A string of the browser is a list of UTF-16 code units. -/
abbrev CodeUnits := List UInt16

/-- White space and line terminators, which `trim` removes at both ends. -/
def isTrimmed (unit : UInt16) : Bool :=
  (9 ≤ unit && unit ≤ 13) || unit = 0x20 || unit = 0xa0 || unit = 0x1680 ||
    (0x2000 ≤ unit && unit ≤ 0x200a) || unit = 0x2028 || unit = 0x2029 || unit = 0x202f ||
    unit = 0x205f || unit = 0x3000 || unit = 0xfeff

def isHighSurrogate (unit : Nat) : Bool := 0xd800 ≤ unit && unit < 0xdc00

def isLowSurrogate (unit : Nat) : Bool := 0xdc00 ≤ unit && unit < 0xe000

def scalarOf (unit : Nat) : Nat :=
  if isHighSurrogate unit || isLowSurrogate unit then 0xfffd else unit

def utf8Bytes (scalar : Nat) : List Nat :=
  if scalar < 0x80 then [scalar]
  else if scalar < 0x800 then [0xc0 + scalar / 0x40, 0x80 + scalar % 0x40]
  else if scalar < 0x10000 then
    [0xe0 + scalar / 0x1000, 0x80 + scalar / 0x40 % 0x40, 0x80 + scalar % 0x40]
  else
    [0xf0 + scalar / 0x40000 % 8, 0x80 + scalar / 0x1000 % 0x40, 0x80 + scalar / 0x40 % 0x40,
      0x80 + scalar % 0x40]

/-- `TextEncoder.encode`. -/
def encodeText : CodeUnits → List Nat
  | [] => []
  | [unit] => utf8Bytes (scalarOf unit.toNat)
  | first :: second :: rest =>
    if isHighSurrogate first.toNat && isLowSurrogate second.toNat then
      utf8Bytes (0x10000 + (first.toNat - 0xd800) * 0x400 + (second.toNat - 0xdc00)) ++
        encodeText rest
    else utf8Bytes (scalarOf first.toNat) ++ encodeText (second :: rest)

structure QrVersionSpec where
  version : Nat
  size : Nat
  dataCodewords : Nat
  eccCodewordsPerBlock : Nat
  blocks : Nat
  deriving DecidableEq

def qrVersionSpecs : List QrVersionSpec :=
  [⟨1, 21, 19, 7, 1⟩, ⟨2, 25, 34, 10, 1⟩, ⟨3, 29, 55, 15, 1⟩, ⟨4, 33, 80, 20, 1⟩,
    ⟨5, 37, 108, 26, 1⟩, ⟨6, 41, 136, 18, 2⟩]

inductive QrError where
  | blank
  | tooLong (payloadLength maxLength : Nat)

def maxBytePayload (spec : QrVersionSpec) : Nat := (spec.dataCodewords * 8 - 12) / 8

def chooseVersionSpec (payloadLength : Nat) : Except QrError QrVersionSpec :=
  match qrVersionSpecs.find? fun candidate => payloadLength ≤ maxBytePayload candidate with
  | some spec => .ok spec
  | none => .error (.tooLong payloadLength ((qrVersionSpecs.getLast?.map maxBytePayload).getD 0))

def appendBits (target : List Nat) (value length : Nat) : List Nat := target ++ bitsOf value length

def bitsToByte (bits : List Nat) : Nat := ofBits bits

def byteToBits (value : Nat) : List Nat := appendBits [] value 8

def fillLastByte (bits : List Nat) : List Nat :=
  (List.range 7).foldl (fun bits _ => if bits.length % 8 ≠ 0 then bits ++ [0] else bits) bits

def padCodewords : Nat → Nat → List Nat
  | 0, _ => []
  | count + 1, pad => pad :: padCodewords count (pad ^^^ 0xfd)

def encodePayload (payload : List Nat) (spec : QrVersionSpec) : List Nat :=
  let header := appendBits (appendBits [] 4 4) payload.length 8
  let body := payload.foldl (fun bits byte => appendBits bits byte 8) header
  let capacityBits := spec.dataCodewords * 8
  let bits := fillLastByte (appendBits body 0 (min 4 (capacityBits - body.length)))
  let data := (List.range ((bits.length + 7) / 8)).map fun i => bitsToByte (chunk 8 bits i)
  data ++ padCodewords (spec.dataCodewords - data.length) 0xec

def gfNext (value : Nat) : Nat :=
  let doubled := value <<< 1
  if doubled &&& 0x100 ≠ 0 then doubled ^^^ 0x11d else doubled

def gfPowers : Nat → Nat → List Nat
  | 0, _ => []
  | count + 1, value => value :: gfPowers count (gfNext value)

def gfExp : List Nat :=
  (List.range' 255 257).foldl (fun table i => table ++ [table.getD (i - 255) 0]) (gfPowers 255 1)

def gfLog : List Nat :=
  (gfPowers 255 1).zipIdx.foldl (fun table power => table.set power.1 power.2)
    (List.replicate 256 0)

def gfMultiply (left right : Nat) : Nat :=
  if left = 0 ∨ right = 0 then 0 else gfExp.getD (gfLog.getD left 0 + gfLog.getD right 0) 0

def reedSolomonGenerator (degree : Nat) : List Nat :=
  let product := (List.range degree).foldl
    (fun result i =>
      List.zipWith (· ^^^ ·) (result ++ [0])
        (0 :: result.map fun coefficient => gfMultiply coefficient (gfExp.getD i 0)))
    [1]
  product.drop 1

def reedSolomonRemainder (data : List Nat) (degree : Nat) : List Nat :=
  let generator := reedSolomonGenerator degree
  data.foldl
    (fun result byte =>
      let factor := byte ^^^ result.headD 0
      let shifted := result.tail ++ [0]
      (List.range degree).map fun i =>
        shifted.getD i 0 ^^^ gfMultiply (generator.getD i 0) factor)
    (List.replicate degree 0)

def splitBlocks (data : List Nat) (blockCount : Nat) : List (List Nat) :=
  let blockLength := data.length / blockCount
  (List.range blockCount).map fun i => (data.drop (i * blockLength)).take blockLength

def addErrorCorrection (data : List Nat) (spec : QrVersionSpec) : List Nat :=
  let blocks := splitBlocks data spec.blocks
  let eccBlocks := blocks.map fun block => reedSolomonRemainder block spec.eccCodewordsPerBlock
  let maxDataLength := (blocks.map List.length).foldl max 0
  (List.range maxDataLength).flatMap (fun i => blocks.filterMap fun block => block[i]?) ++
    (List.range spec.eccCodewordsPerBlock).flatMap fun i =>
      eccBlocks.map fun block => block.getD i 0

structure BaseMatrix where
  modules : List (List Bool)
  functionModules : List (List Bool)

def setFunctionModule (base : BaseMatrix) (x y : Nat) (dark : Bool) : BaseMatrix where
  modules := put base.modules (x, y) dark
  functionModules := put base.functionModules (x, y) true

/-- The offsets from `-radius` to `radius`, row by row. -/
def offsets (radius : Nat) : List (Int × Int) :=
  let line := (List.range (2 * radius + 1)).map fun (i : Nat) => (i : Int) - radius
  line.flatMap fun dy => line.map fun dx => (dx, dy)

def isInside (size : Nat) (x y : Int) : Bool := 0 ≤ x && 0 ≤ y && x < size && y < size

def drawFinderPattern (base : BaseMatrix) (centerX centerY : Nat) : BaseMatrix :=
  (offsets 4).foldl
    (fun base offset =>
      let x : Int := centerX + offset.1
      let y : Int := centerY + offset.2
      if isInside base.modules.length x y then
        let distance := max offset.1.natAbs offset.2.natAbs
        setFunctionModule base x.toNat y.toNat (distance ≤ 3 && distance ≠ 2)
      else base)
    base

def drawAlignmentPattern (base : BaseMatrix) (centerX centerY : Nat) : BaseMatrix :=
  (offsets 2).foldl
    (fun base offset =>
      let distance := max offset.1.natAbs offset.2.natAbs
      let x : Int := centerX + offset.1
      let y : Int := centerY + offset.2
      setFunctionModule base x.toNat y.toNat (distance ≠ 1))
    base

def drawAlignmentPatterns (base : BaseMatrix) (spec : QrVersionSpec) : BaseMatrix :=
  if spec.version = 1 then base
  else
    let centers := [6, spec.size - 7]
    (centers.flatMap fun y => centers.map fun x => (x, y)).foldl
      (fun base center =>
        if cell base.functionModules center then base
        else drawAlignmentPattern base center.1 center.2)
      base

def drawTimingPatterns (base : BaseMatrix) : BaseMatrix :=
  (List.range base.modules.length).foldl
    (fun base i =>
      let dark : Bool := i % 2 = 0
      let across := if cell base.functionModules (i, 6) then base else setFunctionModule base i 6 dark
      if cell across.functionModules (6, i) then across else setFunctionModule across 6 i dark)
    base

def reserveFormatBits (base : BaseMatrix) (size : Nat) : BaseMatrix :=
  let base := (List.range 6).foldl
    (fun base i => setFunctionModule (setFunctionModule base 8 i false) i 8 false) base
  let base := setFunctionModule base 8 7 false
  let base := setFunctionModule base 8 8 false
  let base := setFunctionModule base 7 8 false
  let base := (List.range 8).foldl
    (fun base i => setFunctionModule base (size - 1 - i) 8 false) base
  (List.range 7).foldl (fun base i => setFunctionModule base 8 (size - 1 - i) false) base

def createBaseMatrix (spec : QrVersionSpec) : BaseMatrix :=
  let base : BaseMatrix := ⟨blank spec.size, blank spec.size⟩
  let base := drawFinderPattern base 3 3
  let base := drawFinderPattern base (spec.size - 4) 3
  let base := drawFinderPattern base 3 (spec.size - 4)
  let base := drawAlignmentPatterns base spec
  let base := drawTimingPatterns base
  let base := reserveFormatBits base spec.size
  setFunctionModule base 8 (spec.size - 8) true

/-- The columns that the outer loop visits from `right` on, with the direction of each.
The timing column is stepped over. -/
def scanColumns : Nat → Nat → Bool → List (Nat × Bool)
  | 0, _, _ => []
  | turns + 1, right, upward =>
    if right = 0 then []
    else
      let right := if right = 6 then right - 1 else right
      (right, upward) :: scanColumns turns (right - 2) !upward

def scan (size : Nat) : List Place :=
  (scanColumns size (size - 1) true).flatMap fun column =>
    (List.range size).flatMap fun vertical =>
      (List.range 2).map fun dx =>
        (column.1 - dx, if column.2 then size - 1 - vertical else vertical)

structure DrawnCodewords where
  modules : List (List Bool)
  bitIndex : Nat

def drawCodewords (modules functionModules : List (List Bool)) (codewords : List Nat) :
    List (List Bool) :=
  let bits := codewords.flatMap byteToBits
  let drawn := (scan modules.length).foldl
    (fun drawn place =>
      if cell functionModules place then drawn
      else
        { modules := put drawn.modules place (bits[drawn.bitIndex]? = some 1)
          bitIndex := drawn.bitIndex + 1 })
    (⟨modules, 0⟩ : DrawnCodewords)
  drawn.modules

def places (size : Nat) : List Place :=
  (List.range size).flatMap fun y => (List.range size).map fun x => (x, y)

def applyMask (modules functionModules : List (List Bool)) : List (List Bool) :=
  Grids.flip (fun place => !cell functionModules place && (place.1 + place.2) % 2 = 0) modules
    (places modules.length)

def formatEccLevelL : Nat := 1

def formatMaskPattern : Nat := 0

def formatBits (maskPattern : Nat) : Nat :=
  let data := (formatEccLevelL <<< 3) ||| maskPattern
  let remainder := [14, 13, 12, 11, 10].foldl
    (fun remainder i =>
      if (remainder >>> i) &&& 1 ≠ 0 then remainder ^^^ (0x537 <<< (i - 10)) else remainder)
    (data <<< 10)
  ((data <<< 10) ||| remainder) ^^^ 0x5412

def getBit (value index : Nat) : Bool := (value >>> index) &&& 1 ≠ 0

def drawFormatBits (modules : List (List Bool)) (size maskPattern : Nat) : List (List Bool) :=
  let bits := formatBits maskPattern
  let modules := (List.range 6).foldl (fun modules i => put modules (8, i) (getBit bits i)) modules
  let modules := put modules (8, 7) (getBit bits 6)
  let modules := put modules (8, 8) (getBit bits 7)
  let modules := put modules (7, 8) (getBit bits 8)
  let modules := (List.range' 9 6).foldl
    (fun modules i => put modules (14 - i, 8) (getBit bits i)) modules
  let modules := (List.range 8).foldl
    (fun modules i => put modules (size - 1 - i, 8) (getBit bits i)) modules
  let modules := (List.range' 8 7).foldl
    (fun modules i => put modules (8, size - 15 + i) (getBit bits i)) modules
  put modules (8, size - 8) true

def drawMatrix (payload : List Nat) (spec : QrVersionSpec) : List (List Bool) :=
  let base := createBaseMatrix spec
  let codewords := addErrorCorrection (encodePayload payload spec) spec
  let drawn := drawCodewords base.modules base.functionModules codewords
  drawFormatBits (applyMask drawn base.functionModules) spec.size formatMaskPattern

def createQrMatrix (value : CodeUnits) : Except QrError (List (List Bool)) :=
  if value.all isTrimmed then .error .blank
  else
    let payload := encodeText value
    match chooseVersionSpec payload.length with
    | .error error => .error error
    | .ok spec => .ok (drawMatrix payload spec)

end MemeExpert.Frontend
