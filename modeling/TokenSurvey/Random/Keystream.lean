import TokenSurvey.Random.Source

/-! The seeded tape: a ChaCha keystream of twelve rounds, read as 64-bit words. -/
namespace TokenSurvey.Random.Keystream

abbrev Block := Vector UInt32 16

def rotateLeft (x k : UInt32) : UInt32 := (x <<< k) ||| (x >>> (32 - k))

def rotateRight (x k : UInt32) : UInt32 := (x >>> k) ||| (x <<< ((32 - k) % 32))

def quarterRound (s : Block) (i j k l : Fin 16) : Block :=
  let a := s[i] + s[j]
  let d := rotateLeft (s[l] ^^^ a) 16
  let c := s[k] + d
  let b := rotateLeft (s[j] ^^^ c) 12
  let a := a + b
  let d := rotateLeft (d ^^^ a) 8
  let c := c + d
  let b := rotateLeft (b ^^^ c) 7
  (((s.set i a).set j b).set k c).set l d

/-- A column round and a diagonal round. -/
def doubleRound (s : Block) : Block :=
  let s := quarterRound s 0 4 8 12
  let s := quarterRound s 1 5 9 13
  let s := quarterRound s 2 6 10 14
  let s := quarterRound s 3 7 11 15
  let s := quarterRound s 0 5 10 15
  let s := quarterRound s 1 6 11 12
  let s := quarterRound s 2 7 8 13
  quarterRound s 3 4 9 14

/-- Twelve rounds: six double rounds. -/
def mix (s : Block) : Block :=
  doubleRound (doubleRound (doubleRound (doubleRound (doubleRound (doubleRound s)))))

/-- Four constants, eight key words, the block's number and a zero stream number. -/
def start (key : Vector UInt32 8) (number : UInt64) : Block :=
  #v[0x61707865, 0x3320646e, 0x79622d32, 0x6b206574,
    key[0], key[1], key[2], key[3], key[4], key[5], key[6], key[7],
    number.toUInt32, (number >>> 32).toUInt32, 0, 0]

def block (key : Vector UInt32 8) (number : UInt64) : Block :=
  let s := start key number
  Vector.zipWith (· + ·) (mix s) s

/-- Two consecutive words of a block make one output, the low word first. -/
def tape (key : Vector UInt32 8) : Tape := fun i =>
  let words := block key (UInt64.ofNat (i / 8))
  let low := words[2 * (i % 8)]
  let high := words[2 * (i % 8) + 1]
  low.toUInt64 ||| (high.toUInt64 <<< 32)

/-- One step of the congruential generator that stretches a seed. -/
def stretch (state : UInt64) : UInt64 := state * 6364136223846793005 + 11634580027462260723

def keyWord (state : UInt64) : UInt32 :=
  rotateRight (((state >>> 18) ^^^ state) >>> 27).toUInt32 (state >>> 59).toUInt32

/-- The eight key words are the outputs of eight steps from the seed. -/
def key (seed : UInt64) : Vector UInt32 8 :=
  let s1 := stretch seed
  let s2 := stretch s1
  let s3 := stretch s2
  let s4 := stretch s3
  let s5 := stretch s4
  let s6 := stretch s5
  let s7 := stretch s6
  let s8 := stretch s7
  #v[keyWord s1, keyWord s2, keyWord s3, keyWord s4, keyWord s5, keyWord s6, keyWord s7, keyWord s8]

end Keystream

/-- The keystream repeats after `2 ^ 64` blocks of eight outputs, and a draw may look at all of them. -/
def Source.ofSeed (seed : UInt64) : Source where
  tape := Keystream.tape (Keystream.key seed)
  patience := 8 * UInt64.size

end TokenSurvey.Random
