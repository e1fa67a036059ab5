import Waterworks.Unicode.CodePoints

namespace Waterworks.Unicode

/-!
# Case variants

Two characters are case variants when simple case folding takes them to the same character.

* `CaseRule` — one line of the table: a group of variants, or ranges of pairs.
* `caseRules` — the table beyond ASCII, and the two groups that join it to ASCII.
* `variants c` — the other members of the group of `c`.
* `foldRanges s` — the set of all characters with a variant in `s`, themselves included.
-/

/-- A line of the table of case variants. -/
inductive CaseRule where
  /-- These code points are variants of each other. -/
  | group (members : List Nat)
  /-- Each code point from `first` to `last` pairs with the one that lies `shift` above it; where
  `shift` is 1, only every other code point begins a pair. -/
  | shift (first last shift : Nat)

namespace CaseRule

/-- Whether `n` begins a pair of a range of pairs. -/
def beginsPair (first last shift n : Nat) : Bool :=
  first ≤ n && n ≤ last && (shift != 1 || (n - first) % 2 == 0)

/-- The other code points that the rule makes variants of `n`. -/
def variants (n : Nat) : CaseRule → List Nat
  | group members => if members.contains n then members.filter (· != n) else []
  | shift first last k =>
    (if beginsPair first last k n then [n + k] else []) ++
      (if k ≤ n && beginsPair first last k (n - k) then [n - k] else [])

end CaseRule

/-! ### The table -/

/-- The rules of simple case folding outside of ASCII, and those that lead out of it. -/
def caseRules : List CaseRule := [
  .group [0x4B, 0x6B, 0x212A], .group [0x53, 0x73, 0x17F], .group [0xB5, 0x39C, 0x3BC],
  .shift 0xC0 0xC4 0x20, .group [0xC5, 0xE5, 0x212B], .shift 0xC6 0xD6 0x20,
  .shift 0xD8 0xDE 0x20, .shift 0xDF 0xDF 0x1DBF, .shift 0xFF 0xFF 0x79, .shift 0x100 0x12E 0x1,
  .shift 0x132 0x136 0x1, .shift 0x139 0x147 0x1, .shift 0x14A 0x176 0x1,
  .shift 0x179 0x17D 0x1, .shift 0x180 0x180 0xC3, .shift 0x181 0x181 0xD2,
  .shift 0x182 0x184 0x1, .shift 0x186 0x186 0xCE, .shift 0x187 0x187 0x1,
  .shift 0x189 0x18A 0xCD, .shift 0x18B 0x18B 0x1, .shift 0x18E 0x18E 0x4F,
  .shift 0x18F 0x18F 0xCA, .shift 0x190 0x190 0xCB, .shift 0x191 0x191 0x1,
  .shift 0x193 0x193 0xCD, .shift 0x194 0x194 0xCF, .shift 0x195 0x195 0x61,
  .shift 0x196 0x196 0xD3, .shift 0x197 0x197 0xD1, .shift 0x198 0x198 0x1,
  .shift 0x19A 0x19A 0xA3, .shift 0x19B 0x19B 0xA641, .shift 0x19C 0x19C 0xD3,
  .shift 0x19D 0x19D 0xD5, .shift 0x19E 0x19E 0x82, .shift 0x19F 0x19F 0xD6,
  .shift 0x1A0 0x1A4 0x1, .shift 0x1A6 0x1A6 0xDA, .shift 0x1A7 0x1A7 0x1,
  .shift 0x1A9 0x1A9 0xDA, .shift 0x1AC 0x1AC 0x1, .shift 0x1AE 0x1AE 0xDA,
  .shift 0x1AF 0x1AF 0x1, .shift 0x1B1 0x1B2 0xD9, .shift 0x1B3 0x1B5 0x1,
  .shift 0x1B7 0x1B7 0xDB, .shift 0x1B8 0x1B8 0x1, .shift 0x1BC 0x1BC 0x1,
  .shift 0x1BF 0x1BF 0x38, .group [0x1C4, 0x1C5, 0x1C6], .group [0x1C7, 0x1C8, 0x1C9],
  .group [0x1CA, 0x1CB, 0x1CC], .shift 0x1CD 0x1DB 0x1, .shift 0x1DE 0x1EE 0x1,
  .group [0x1F1, 0x1F2, 0x1F3], .shift 0x1F4 0x1F4 0x1, .shift 0x1F8 0x21E 0x1,
  .shift 0x222 0x232 0x1, .shift 0x23A 0x23A 0x2A2B, .shift 0x23B 0x23B 0x1,
  .shift 0x23E 0x23E 0x2A28, .shift 0x23F 0x240 0x2A3F, .shift 0x241 0x241 0x1,
  .shift 0x244 0x244 0x45, .shift 0x245 0x245 0x47, .shift 0x246 0x24E 0x1,
  .shift 0x250 0x250 0x2A1F, .shift 0x251 0x251 0x2A1C, .shift 0x252 0x252 0x2A1E,
  .shift 0x25C 0x25C 0xA54F, .shift 0x261 0x261 0xA54B, .shift 0x264 0x264 0xA567,
  .shift 0x265 0x265 0xA528, .shift 0x266 0x266 0xA544, .shift 0x26A 0x26A 0xA544,
  .shift 0x26B 0x26B 0x29F7, .shift 0x26C 0x26C 0xA541, .shift 0x271 0x271 0x29FD,
  .shift 0x27D 0x27D 0x29E7, .shift 0x282 0x282 0xA543, .shift 0x287 0x287 0xA52A,
  .shift 0x29D 0x29D 0xA515, .shift 0x29E 0x29E 0xA512, .group [0x345, 0x399, 0x3B9, 0x1FBE],
  .shift 0x370 0x372 0x1, .shift 0x376 0x376 0x1, .shift 0x37B 0x37D 0x82,
  .shift 0x37F 0x37F 0x74, .shift 0x386 0x386 0x26, .shift 0x388 0x38A 0x25,
  .shift 0x38C 0x38C 0x40, .shift 0x38E 0x38F 0x3F, .shift 0x390 0x390 0x1C43,
  .shift 0x391 0x391 0x20, .group [0x392, 0x3B2, 0x3D0], .shift 0x393 0x394 0x20,
  .group [0x395, 0x3B5, 0x3F5], .shift 0x396 0x397 0x20, .group [0x398, 0x3B8, 0x3D1, 0x3F4],
  .group [0x39A, 0x3BA, 0x3F0], .shift 0x39B 0x39B 0x20, .shift 0x39D 0x39F 0x20,
  .group [0x3A0, 0x3C0, 0x3D6], .group [0x3A1, 0x3C1, 0x3F1], .group [0x3A3, 0x3C2, 0x3C3],
  .shift 0x3A4 0x3A5 0x20, .group [0x3A6, 0x3C6, 0x3D5], .shift 0x3A7 0x3A8 0x20,
  .group [0x3A9, 0x3C9, 0x2126], .shift 0x3AA 0x3AB 0x20, .shift 0x3B0 0x3B0 0x1C33,
  .shift 0x3CF 0x3CF 0x8, .shift 0x3D8 0x3EE 0x1, .shift 0x3F2 0x3F2 0x7,
  .shift 0x3F7 0x3F7 0x1, .shift 0x3FA 0x3FA 0x1, .shift 0x400 0x40F 0x50,
  .shift 0x410 0x411 0x20, .group [0x412, 0x432, 0x1C80], .shift 0x413 0x413 0x20,
  .group [0x414, 0x434, 0x1C81], .shift 0x415 0x41D 0x20, .group [0x41E, 0x43E, 0x1C82],
  .shift 0x41F 0x420 0x20, .group [0x421, 0x441, 0x1C83], .group [0x422, 0x442, 0x1C84, 0x1C85],
  .shift 0x423 0x429 0x20, .group [0x42A, 0x44A, 0x1C86], .shift 0x42B 0x42F 0x20,
  .shift 0x460 0x460 0x1, .group [0x462, 0x463, 0x1C87], .shift 0x464 0x480 0x1,
  .shift 0x48A 0x4BE 0x1, .shift 0x4C0 0x4C0 0xF, .shift 0x4C1 0x4CD 0x1,
  .shift 0x4D0 0x52E 0x1, .shift 0x531 0x556 0x30, .shift 0x10A0 0x10C5 0x1C60,
  .shift 0x10C7 0x10C7 0x1C60, .shift 0x10CD 0x10CD 0x1C60, .shift 0x10D0 0x10FA 0xBC0,
  .shift 0x10FD 0x10FF 0xBC0, .shift 0x13A0 0x13EF 0x97D0, .shift 0x13F0 0x13F5 0x8,
  .group [0x1C88, 0xA64A, 0xA64B], .shift 0x1C89 0x1C89 0x1, .shift 0x1D79 0x1D79 0x8A04,
  .shift 0x1D7D 0x1D7D 0xEE6, .shift 0x1D8E 0x1D8E 0x8A38, .shift 0x1E00 0x1E5E 0x1,
  .group [0x1E60, 0x1E61, 0x1E9B], .shift 0x1E62 0x1E94 0x1, .shift 0x1EA0 0x1EFE 0x1,
  .shift 0x1F00 0x1F07 0x8, .shift 0x1F10 0x1F15 0x8, .shift 0x1F20 0x1F27 0x8,
  .shift 0x1F30 0x1F37 0x8, .shift 0x1F40 0x1F45 0x8, .shift 0x1F51 0x1F51 0x8,
  .shift 0x1F53 0x1F53 0x8, .shift 0x1F55 0x1F55 0x8, .shift 0x1F57 0x1F57 0x8,
  .shift 0x1F60 0x1F67 0x8, .shift 0x1F70 0x1F71 0x4A, .shift 0x1F72 0x1F75 0x56,
  .shift 0x1F76 0x1F77 0x64, .shift 0x1F78 0x1F79 0x80, .shift 0x1F7A 0x1F7B 0x70,
  .shift 0x1F7C 0x1F7D 0x7E, .shift 0x1F80 0x1F87 0x8, .shift 0x1F90 0x1F97 0x8,
  .shift 0x1FA0 0x1FA7 0x8, .shift 0x1FB0 0x1FB1 0x8, .shift 0x1FB3 0x1FB3 0x9,
  .shift 0x1FC3 0x1FC3 0x9, .shift 0x1FD0 0x1FD1 0x8, .shift 0x1FE0 0x1FE1 0x8,
  .shift 0x1FE5 0x1FE5 0x7, .shift 0x1FF3 0x1FF3 0x9, .shift 0x2132 0x2132 0x1C,
  .shift 0x2160 0x216F 0x10, .shift 0x2183 0x2183 0x1, .shift 0x24B6 0x24CF 0x1A,
  .shift 0x2C00 0x2C2F 0x30, .shift 0x2C60 0x2C60 0x1, .shift 0x2C67 0x2C6B 0x1,
  .shift 0x2C72 0x2C72 0x1, .shift 0x2C75 0x2C75 0x1, .shift 0x2C80 0x2CE2 0x1,
  .shift 0x2CEB 0x2CED 0x1, .shift 0x2CF2 0x2CF2 0x1, .shift 0xA640 0xA648 0x1,
  .shift 0xA64C 0xA66C 0x1, .shift 0xA680 0xA69A 0x1, .shift 0xA722 0xA72E 0x1,
  .shift 0xA732 0xA76E 0x1, .shift 0xA779 0xA77B 0x1, .shift 0xA77E 0xA786 0x1,
  .shift 0xA78B 0xA78B 0x1, .shift 0xA790 0xA792 0x1, .shift 0xA794 0xA794 0x30,
  .shift 0xA796 0xA7A8 0x1, .shift 0xA7B3 0xA7B3 0x3A0, .shift 0xA7B4 0xA7C2 0x1,
  .shift 0xA7C7 0xA7C9 0x1, .shift 0xA7CC 0xA7DA 0x1, .shift 0xA7F5 0xA7F5 0x1,
  .shift 0xFB05 0xFB05 0x1, .shift 0xFF21 0xFF3A 0x20, .shift 0x10400 0x10427 0x28,
  .shift 0x104B0 0x104D3 0x28, .shift 0x10570 0x1057A 0x27, .shift 0x1057C 0x1058A 0x27,
  .shift 0x1058C 0x10592 0x27, .shift 0x10594 0x10595 0x27, .shift 0x10C80 0x10CB2 0x40,
  .shift 0x10D50 0x10D65 0x20, .shift 0x118A0 0x118BF 0x20, .shift 0x16E40 0x16E5F 0x20,
  .shift 0x16EA0 0x16EB8 0x1B, .shift 0x1E900 0x1E921 0x22]

/-- The ASCII letters. -/
def asciiRule : CaseRule := .shift 0x41 0x5A 0x20

/-- The other members of the group of case variants of `n`. -/
def variants (n : Nat) : List Nat :=
  if n < 128 then
    asciiRule.variants n ++
      (if n == 0x4B || n == 0x6B then [0x212A]
       else if n == 0x53 || n == 0x73 then [0x17F] else [])
  else caseRules.flatMap (CaseRule.variants n)

/-! ### Folding a set -/

/-- The code points of the range `[a, b]`. -/
def codePointsFrom (a b : Nat) : List Nat :=
  (List.range (b + 1 - a)).map (a + ·)

/-- The ranges that a rule adds to a set. -/
def CaseRule.added (s : CodePoints) : CaseRule → List (Nat × Nat)
  | group members =>
    if members.any s.contains then members.map fun n => (n, n) else []
  | shift first last k =>
    if k == 1 then
      (codePointsFrom first last).flatMap fun n =>
        if (n - first) % 2 == 0 && (s.contains n || s.contains (n + 1)) then [(n, n + 1)] else []
    else
      s.ranges.toList.flatMap fun (a, b) =>
        overlap (a, b) (first, last) (· + k) ++ overlap (a, b) (first + k, last + k) (· - k)
where
  /-- The common part of two ranges, moved by `move`. -/
  overlap (r s : Nat × Nat) (move : Nat → Nat) : List (Nat × Nat) :=
    let a := max r.1 s.1
    let b := min r.2 s.2
    if a ≤ b then [(move a, move b)] else []

/-- A set together with all case variants of its members. -/
def foldRanges (s : CodePoints) : CodePoints :=
  .ofRanges (s.ranges.toList ++ (asciiRule :: caseRules).flatMap (CaseRule.added s))

/-- A set together with the case variants that its ASCII letters have among the ASCII letters. -/
def foldAsciiRanges (s : CodePoints) : CodePoints :=
  .ofRanges (s.ranges.toList ++ asciiRule.added s)

end Waterworks.Unicode
