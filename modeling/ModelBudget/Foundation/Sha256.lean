/-
The SHA-256 digest of a text, as sixty-four lowercase hexadecimal digits.

Words are numbers below 2 ^ 32.
-/

import ModelBudget.Foundation.Json

set_option autoImplicit false

namespace Foundation

namespace Sha256

def roundConstants : List Nat :=
  [0x428a2f98, 0x71374491, 0xb5c0fbcf, 0xe9b5dba5, 0x3956c25b, 0x59f111f1, 0x923f82a4,
    0xab1c5ed5, 0xd807aa98, 0x12835b01, 0x243185be, 0x550c7dc3, 0x72be5d74, 0x80deb1fe,
    0x9bdc06a7, 0xc19bf174, 0xe49b69c1, 0xefbe4786, 0x0fc19dc6, 0x240ca1cc, 0x2de92c6f,
    0x4a7484aa, 0x5cb0a9dc, 0x76f988da, 0x983e5152, 0xa831c66d, 0xb00327c8, 0xbf597fc7,
    0xc6e00bf3, 0xd5a79147, 0x06ca6351, 0x14292967, 0x27b70a85, 0x2e1b2138, 0x4d2c6dfc,
    0x53380d13, 0x650a7354, 0x766a0abb, 0x81c2c92e, 0x92722c85, 0xa2bfe8a1, 0xa81a664b,
    0xc24b8b70, 0xc76c51a3, 0xd192e819, 0xd6990624, 0xf40e3585, 0x106aa070, 0x19a4c116,
    0x1e376c08, 0x2748774c, 0x34b0bcb5, 0x391c0cb3, 0x4ed8aa4a, 0x5b9cca4f, 0x682e6ff3,
    0x748f82ee, 0x78a5636f, 0x84c87814, 0x8cc70208, 0x90befffa, 0xa4506ceb, 0xbef9a3f7,
    0xc67178f2]

def word (n : Nat) : Nat := n % 2 ^ 32

def rotateRight (x n : Nat) : Nat := word ((x >>> n) ||| (x <<< (32 - n)))

structure State where
  a : Nat
  b : Nat
  c : Nat
  d : Nat
  e : Nat
  f : Nat
  g : Nat
  h : Nat

def initial : State :=
  ⟨0x6a09e667, 0xbb67ae85, 0x3c6ef372, 0xa54ff53a, 0x510e527f, 0x9b05688c, 0x1f83d9ab,
    0x5be0cd19⟩

def State.words (state : State) : List Nat :=
  [state.a, state.b, state.c, state.d, state.e, state.f, state.g, state.h]

def round (state : State) (constant scheduled : Nat) : State :=
  let bigSigma1 := rotateRight state.e 6 ^^^ rotateRight state.e 11 ^^^ rotateRight state.e 25
  let choice := (state.e &&& state.f) ^^^ ((0xffffffff ^^^ state.e) &&& state.g)
  let first := word (state.h + bigSigma1 + choice + constant + scheduled)
  let bigSigma0 := rotateRight state.a 2 ^^^ rotateRight state.a 13 ^^^ rotateRight state.a 22
  let majority := (state.a &&& state.b) ^^^ (state.a &&& state.c) ^^^ (state.b &&& state.c)
  ⟨word (first + bigSigma0 + majority), state.a, state.b, state.c, word (state.d + first),
    state.e, state.f, state.g⟩

/-- The message schedule: `window` holds the last sixteen words. -/
def schedule : Nat → List Nat → List Nat
  | 0, _ => []
  | rest + 1, window =>
      let w0 := window.getD 0 0
      let w1 := window.getD 1 0
      let w14 := window.getD 14 0
      let sigma0 := rotateRight w1 7 ^^^ rotateRight w1 18 ^^^ (w1 >>> 3)
      let sigma1 := rotateRight w14 17 ^^^ rotateRight w14 19 ^^^ (w14 >>> 10)
      w0 :: schedule rest (window.tail ++ [word (w0 + sigma0 + window.getD 9 0 + sigma1)])

def compress (state : State) (block : List Nat) : State :=
  let mixed := (roundConstants.zip (schedule 64 block)).foldl
    (fun state step => round state step.1 step.2) state
  ⟨word (state.a + mixed.a), word (state.b + mixed.b), word (state.c + mixed.c),
    word (state.d + mixed.d), word (state.e + mixed.e), word (state.f + mixed.f),
    word (state.g + mixed.g), word (state.h + mixed.h)⟩

def bigEndian : Nat → Nat → List Nat
  | 0, _ => []
  | width + 1, n => (n >>> (8 * width)) % 256 :: bigEndian width n

def pad (message : List Nat) : List Nat :=
  let zeros := (119 - message.length % 64) % 64
  message ++ 0x80 :: (List.replicate zeros 0 ++ bigEndian 8 (8 * message.length))

def toWords : List Nat → List Nat
  | b3 :: b2 :: b1 :: b0 :: rest => (((b3 * 256 + b2) * 256 + b1) * 256 + b0) :: toWords rest
  | _ => []

/-- Compress the blocks of sixteen words; `count` bounds their number. -/
def absorb : Nat → State → List Nat → State
  | 0, state, _ => state
  | _ + 1, state, [] => state
  | count + 1, state, words => absorb count (compress state (words.take 16)) (words.drop 16)

def utf8 (text : List Char) : List Nat :=
  text.flatMap fun c => (String.utf8EncodeChar c).map UInt8.toNat

def digest (message : List Nat) : State :=
  let words := toWords (pad message)
  absorb words.length initial words

def hexdigest (text : List Char) : String :=
  String.ofList ((digest (utf8 text)).words.flatMap fun w => Json.hexDigits 8 (word w))

theorem hexdigest_length (text : List Char) : (hexdigest text).length = 64 := by
  have eight (w : Nat) : (Json.hexDigits 8 (word w)).length = 8 := by
    apply Json.hexDigits_length (by decide)
    exact Nat.mod_lt _ (by decide)
  rw [hexdigest, String.length_ofList, List.length_flatMap]
  simp only [eight, State.words, List.map_cons, List.map_nil, List.sum_cons, List.sum_nil]
  rfl

theorem hexdigest_lower (text : List Char) :
    (hexdigest text).toList.all isLowerHex = true := by
  rw [hexdigest, String.toList_ofList, List.all_eq_true]
  intro c member
  obtain ⟨w, _, inside⟩ := List.mem_flatMap.mp member
  exact Json.hexDigits_lower c inside

example : hexdigest "abc".toList =
    "ba7816bf8f01cfea414140de5dae2223b00361a396177a9cb410ff61f20015ad" := by
  decide +kernel

end Sha256

end Foundation
