import CrossPatch.Library.Octets

/-!
# SHA-256 and HMAC

The compression function works on 32-bit words.  Collision resistance is not a
theorem about this function, so results that rest on it name the finite list of
messages among which they exclude a collision.
-/

namespace CrossPatch.Library.Sha256

open CrossPatch.Library.Octets

/-! ## Compression -/

def roundConstants : List UInt32 :=
  [0x428a2f98, 0x71374491, 0xb5c0fbcf, 0xe9b5dba5, 0x3956c25b, 0x59f111f1, 0x923f82a4,
   0xab1c5ed5, 0xd807aa98, 0x12835b01, 0x243185be, 0x550c7dc3, 0x72be5d74, 0x80deb1fe,
   0x9bdc06a7, 0xc19bf174, 0xe49b69c1, 0xefbe4786, 0x0fc19dc6, 0x240ca1cc, 0x2de92c6f,
   0x4a7484aa, 0x5cb0a9dc, 0x76f988da, 0x983e5152, 0xa831c66d, 0xb00327c8, 0xbf597fc7,
   0xc6e00bf3, 0xd5a79147, 0x06ca6351, 0x14292967, 0x27b70a85, 0x2e1b2138, 0x4d2c6dfc,
   0x53380d13, 0x650a7354, 0x766a0abb, 0x81c2c92e, 0x92722c85, 0xa2bfe8a1, 0xa81a664b,
   0xc24b8b70, 0xc76c51a3, 0xd192e819, 0xd6990624, 0xf40e3585, 0x106aa070, 0x19a4c116,
   0x1e376c08, 0x2748774c, 0x34b0bcb5, 0x391c0cb3, 0x4ed8aa4a, 0x5b9cca4f, 0x682e6ff3,
   0x748f82ee, 0x78a5636f, 0x84c87814, 0x8cc70208, 0x90befffa, 0xa4506ceb, 0xbef9a3f7,
   0xc67178f2]

structure Chain where
  a : UInt32
  b : UInt32
  c : UInt32
  d : UInt32
  e : UInt32
  f : UInt32
  g : UInt32
  h : UInt32
  deriving DecidableEq

def Chain.start : Chain :=
  ⟨0x6a09e667, 0xbb67ae85, 0x3c6ef372, 0xa54ff53a,
   0x510e527f, 0x9b05688c, 0x1f83d9ab, 0x5be0cd19⟩

def rotateRight (count word : UInt32) : UInt32 :=
  (word >>> count) ||| (word <<< (32 - count))

def bigSigma0 (word : UInt32) : UInt32 :=
  rotateRight 2 word ^^^ rotateRight 13 word ^^^ rotateRight 22 word

def bigSigma1 (word : UInt32) : UInt32 :=
  rotateRight 6 word ^^^ rotateRight 11 word ^^^ rotateRight 25 word

def smallSigma0 (word : UInt32) : UInt32 :=
  rotateRight 7 word ^^^ rotateRight 18 word ^^^ (word >>> 3)

def smallSigma1 (word : UInt32) : UInt32 :=
  rotateRight 17 word ^^^ rotateRight 19 word ^^^ (word >>> 10)

def choose (x y z : UInt32) : UInt32 := (x &&& y) ^^^ (~~~x &&& z)

def majority (x y z : UInt32) : UInt32 := (x &&& y) ^^^ (x &&& z) ^^^ (y &&& z)

def round (chain : Chain) (constant word : UInt32) : Chain :=
  let first := chain.h + bigSigma1 chain.e + choose chain.e chain.f chain.g + constant + word
  let second := bigSigma0 chain.a + majority chain.a chain.b chain.c
  ⟨first + second, chain.a, chain.b, chain.c, chain.d + first, chain.e, chain.f, chain.g⟩

/-- Message schedule, newest word first. -/
def extend : Nat → List UInt32 → List UInt32
  | 0, words => words
  | count + 1, words =>
      let word := smallSigma1 (words.getD 1 0) + words.getD 6 0 +
        smallSigma0 (words.getD 14 0) + words.getD 15 0
      extend count (word :: words)

def schedule (block : List UInt32) : List UInt32 := (extend 48 block.reverse).reverse

def compress (chain : Chain) (block : List UInt32) : Chain :=
  let mixed := (roundConstants.zip (schedule block)).foldl
    (fun current pair => round current pair.1 pair.2) chain
  ⟨chain.a + mixed.a, chain.b + mixed.b, chain.c + mixed.c, chain.d + mixed.d,
   chain.e + mixed.e, chain.f + mixed.f, chain.g + mixed.g, chain.h + mixed.h⟩

/-! ## Padding and digests -/

def bigEndian : Nat → Nat → Bytes
  | 0, _ => []
  | width + 1, value => UInt8.ofNat (value / 256 ^ width) :: bigEndian width value

def pad (message : Bytes) : Bytes :=
  message ++ 0x80 :: List.replicate ((119 - message.length % 64) % 64) 0 ++
    bigEndian 8 (8 * message.length)

def wordOf (bytes : Bytes) : UInt32 :=
  UInt32.ofNat (bytes.foldl (fun value byte => 256 * value + byte.toNat) 0)

def chunks {α : Type} (size : Nat) : Nat → List α → List (List α)
  | 0, _ => []
  | count + 1, values => values.take size :: chunks size count (values.drop size)

def blocks (message : Bytes) : List (List UInt32) :=
  let padded := pad message
  (chunks 64 (padded.length / 64) padded).map fun block =>
    (chunks 4 16 block).map wordOf

def Chain.bytes (chain : Chain) : Bytes :=
  [chain.a, chain.b, chain.c, chain.d, chain.e, chain.f, chain.g, chain.h].flatMap
    fun word => bigEndian 4 word.toNat

def sha256 (message : Bytes) : Bytes := ((blocks message).foldl compress Chain.start).bytes

def hexdigest (message : Bytes) : String := hex (sha256 message)

example : hexdigest (utf8 "abc") =
    "ba7816bf8f01cfea414140de5dae2223b00361a396177a9cb410ff61f20015ad" := by
  decide +kernel

theorem length_bigEndian (width value : Nat) : (bigEndian width value).length = width := by
  induction width with
  | zero => rfl
  | succ width ih => rw [bigEndian, List.length_cons, ih]

theorem length_sha256 (message : Bytes) : (sha256 message).length = 32 := by
  simp [sha256, Chain.bytes, length_bigEndian]

theorem length_hexdigest (message : Bytes) : (hexdigest message).toList.length = 64 := by
  rw [hexdigest, length_hex, length_sha256]

theorem mem_hexdigest {message : Bytes} {character : Char}
    (member : character ∈ (hexdigest message).toList) : character ∈ hexDigits :=
  mem_hex member

/-- No two of the listed messages collide. -/
def CollisionFree (messages : List Bytes) : Prop :=
  ∀ left ∈ messages, ∀ right ∈ messages, sha256 left = sha256 right → left = right

theorem CollisionFree.subset {messages others : List Bytes} (free : CollisionFree messages)
    (included : ∀ message ∈ others, message ∈ messages) : CollisionFree others :=
  fun left inLeft right inRight equal =>
    free left (included left inLeft) right (included right inRight) equal

theorem CollisionFree.hexdigest {messages : List Bytes} (free : CollisionFree messages)
    {left right : Bytes} (memLeft : left ∈ messages) (memRight : right ∈ messages)
    (same : hexdigest left = hexdigest right) : left = right :=
  free left memLeft right memRight (hex_injective same)

/-! ## HMAC -/

/-- The key as HMAC reads it: hashed when longer than a block, then zero padded. -/
def hmacBlock (key : Bytes) : Bytes :=
  let short := if key.length > 64 then sha256 key else key
  short ++ List.replicate (64 - short.length) 0

def innerMessage (key message : Bytes) : Bytes :=
  (hmacBlock key).map (· ^^^ 0x36) ++ message

def outerMessage (key message : Bytes) : Bytes :=
  (hmacBlock key).map (· ^^^ 0x5c) ++ sha256 (innerMessage key message)

def hmacSha256 (key message : Bytes) : Bytes := sha256 (outerMessage key message)

def hmacHexdigest (key message : Bytes) : String := hex (hmacSha256 key message)

example : hmacHexdigest (utf8 "key") (utf8 "The quick brown fox jumps over the lazy dog") =
    "f7bc83f430538424b13298e6aa6fb143ef4d59a14946175997479dbc2d1a3cd8" := by
  decide +kernel

theorem length_hmacBlock (key : Bytes) : (hmacBlock key).length = 64 := by
  unfold hmacBlock
  dsimp only
  split
  · rw [List.length_append, List.length_replicate, length_sha256]
  · rw [List.length_append, List.length_replicate]
    omega

theorem length_hmacHexdigest (key message : Bytes) :
    (hmacHexdigest key message).toList.length = 64 := by
  rw [hmacHexdigest, length_hex, hmacSha256, length_sha256]

theorem map_xor_injective {mask : UInt8} {left right : Bytes}
    (same : left.map (· ^^^ mask) = right.map (· ^^^ mask)) : left = right := by
  apply List.map_injective_iff.mpr _ same
  intro first second equal
  exact (UInt8.xor_left_inj mask).mp equal

/-- Two tags agree only for one key block and one message, unless SHA-256
collides on the messages that the two computations hash. -/
theorem hmacHexdigest_inj {messages : List Bytes} (free : CollisionFree messages)
    {key key' message message' : Bytes}
    (inner : innerMessage key message ∈ messages)
    (inner' : innerMessage key' message' ∈ messages)
    (outer : outerMessage key message ∈ messages)
    (outer' : outerMessage key' message' ∈ messages)
    (same : hmacHexdigest key message = hmacHexdigest key' message') :
    hmacBlock key = hmacBlock key' ∧ message = message' := by
  have outerSame : outerMessage key message = outerMessage key' message' :=
    free _ outer _ outer' (hex_injective same)
  have widths (mask : UInt8) : ((hmacBlock key).map (· ^^^ mask)).length =
      ((hmacBlock key').map (· ^^^ mask)).length := by
    rw [List.length_map, List.length_map, length_hmacBlock, length_hmacBlock]
  obtain ⟨_, digests⟩ := List.append_inj outerSame (widths 0x5c)
  have innerSame : innerMessage key message = innerMessage key' message' :=
    free _ inner _ inner' digests
  obtain ⟨keys, texts⟩ := List.append_inj innerSame (widths 0x36)
  exact ⟨map_xor_injective keys, texts⟩

end CrossPatch.Library.Sha256
