import PluginReadme.Text.Basic

/-!
# Punycode

Labels of host names beyond ASCII: the ASCII characters, then the others in the order of their
code points, each as the difference from the one before in digits of a base that adapts.
-/

namespace PluginReadme.Punycode

def digit (n : Nat) : Char :=
  if n < 26 then Char.ofNat (0x61 + n) else Char.ofNat (0x30 + n - 26)

/-- The threshold of the digit at a position, between 1 and 26. -/
def threshold (position bias : Nat) : Nat :=
  if position ≤ bias then 1 else if bias + 26 ≤ position then 26 else position - bias

/-- Divides by 35 until at most 455 is left, counting 36 for each division; `fuel` bounds the
divisions. -/
def shrink : (fuel delta position : Nat) → Nat × Nat
  | 0, delta, position => (delta, position)
  | fuel + 1, delta, position =>
    if 455 < delta then shrink fuel (delta / 35) (position + 36) else (delta, position)

/-- The bias after a difference was written for the `count`-th character. -/
def adapt (delta count : Nat) (first : Bool) : Nat :=
  let halved := if first then delta / 700 else delta / 2
  let spread := halved + halved / count
  let (rest, position) := shrink spread spread 0
  position + 36 * rest / (rest + 38)

/-- A number in digits of the adapting base; `fuel` bounds their count. -/
def digits : (fuel bias position n : Nat) → Text
  | 0, _, _, n => [digit n]
  | fuel + 1, bias, position, n =>
    let least := threshold position bias
    if n < least then [digit n]
    else
      digit (least + (n - least) % (36 - least)) ::
        digits fuel bias (position + 36) ((n - least) / (36 - least))

/-- The text written so far, the difference to write next, the bias and the number of characters
handled. -/
structure State where
  written : Text
  delta : Nat
  bias : Nat
  handled : Nat

/-- Passes a character of the label while the characters with code point `n` are written. -/
def State.pass (basic n : Nat) (state : State) (c : Char) : State :=
  if c.toNat < n then { state with delta := state.delta + 1 }
  else if c.toNat == n then
    { written := state.written ++ digits state.delta state.bias 36 state.delta
      delta := 0
      bias := adapt state.delta (state.handled + 1) (state.handled == basic)
      handled := state.handled + 1 }
  else state

/-- The code points beyond ASCII, each once, in order. -/
def extended (label : Text) : List Nat :=
  ((label.map Char.toNat).filter (0x80 ≤ ·)).mergeSort.eraseDups

/-- Writes the code points given, the next one being compared with `next`. -/
def writeFrom (label : Text) (basic : Nat) : List Nat → Nat → State → State
  | [], _, state => state
  | n :: more, next, state =>
    let started := { state with delta := state.delta + (n - next) * (state.handled + 1) }
    let passed := label.foldl (State.pass basic n) started
    writeFrom label basic more (n + 1) { passed with delta := passed.delta + 1 }

def encode (label : Text) : Text :=
  let basic := label.filter fun c ↦ c.toNat < 0x80
  let start : Text := if basic.isEmpty then [] else basic ++ ['-']
  (writeFrom label basic.length (extended label) 0x80 ⟨start, 0, 72, basic.length⟩).written

end PluginReadme.Punycode
