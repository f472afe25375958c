import FileSieve.Text.CodeSet

/-!
# Simple case folding

Characters that differ in case only form an orbit: `k`, `K` and the Kelvin sign are one.  Most
orbits are pairs at a constant distance, listed in `foldPairRuns`; `foldOrbits` adds the larger
ones.  `CodeSet.foldCase` closes a set under the orbits.
-/

namespace FileSieve

namespace Text

/-- A run of orbits of two code points each, all at the same distance. -/
structure FoldPairRun where
  /-- The first point of the first orbit. -/
  first : Nat
  /-- How far the second point of an orbit lies behind the first. -/
  distance : Nat
  /-- The number of orbits. -/
  count : Nat
  /-- How far the next orbit lies behind an orbit. -/
  step : Nat

/-- The orbits of a run. -/
def FoldPairRun.pairs (run : FoldPairRun) : List (Nat × Nat) :=
  (List.range run.count).map fun i =>
    let point := run.first + i * run.step
    (point, point + run.distance)

/-- The orbits of two code points. -/
def foldPairRuns : List FoldPairRun :=
  [⟨0x41, 0x20, 10, 1⟩, ⟨0x4C, 0x20, 7, 1⟩, ⟨0x54, 0x20, 7, 1⟩, ⟨0xC0, 0x20, 5, 1⟩,
   ⟨0xC6, 0x20, 17, 1⟩, ⟨0xD8, 0x20, 7, 1⟩, ⟨0xDF, 0x1DBF, 1, 1⟩, ⟨0xFF, 0x79, 1, 1⟩,
   ⟨0x100, 0x1, 24, 2⟩, ⟨0x132, 0x1, 3, 2⟩, ⟨0x139, 0x1, 8, 2⟩, ⟨0x14A, 0x1, 23, 2⟩,
   ⟨0x179, 0x1, 3, 2⟩, ⟨0x180, 0xC3, 1, 1⟩, ⟨0x181, 0xD2, 1, 1⟩, ⟨0x182, 0x1, 2, 2⟩,
   ⟨0x186, 0xCE, 1, 1⟩, ⟨0x187, 0x1, 1, 1⟩, ⟨0x189, 0xCD, 2, 1⟩, ⟨0x18B, 0x1, 1, 1⟩,
   ⟨0x18E, 0x4F, 1, 1⟩, ⟨0x18F, 0xCA, 1, 1⟩, ⟨0x190, 0xCB, 1, 1⟩, ⟨0x191, 0x1, 1, 1⟩,
   ⟨0x193, 0xCD, 1, 1⟩, ⟨0x194, 0xCF, 1, 1⟩, ⟨0x195, 0x61, 1, 1⟩, ⟨0x196, 0xD3, 1, 1⟩,
   ⟨0x197, 0xD1, 1, 1⟩, ⟨0x198, 0x1, 1, 1⟩, ⟨0x19A, 0xA3, 1, 1⟩, ⟨0x19B, 0xA641, 1, 1⟩,
   ⟨0x19C, 0xD3, 1, 1⟩, ⟨0x19D, 0xD5, 1, 1⟩, ⟨0x19E, 0x82, 1, 1⟩, ⟨0x19F, 0xD6, 1, 1⟩,
   ⟨0x1A0, 0x1, 3, 2⟩, ⟨0x1A6, 0xDA, 1, 1⟩, ⟨0x1A7, 0x1, 1, 1⟩, ⟨0x1A9, 0xDA, 1, 1⟩,
   ⟨0x1AC, 0x1, 1, 1⟩, ⟨0x1AE, 0xDA, 1, 1⟩, ⟨0x1AF, 0x1, 1, 1⟩, ⟨0x1B1, 0xD9, 2, 1⟩,
   ⟨0x1B3, 0x1, 2, 2⟩, ⟨0x1B7, 0xDB, 1, 1⟩, ⟨0x1B8, 0x1, 1, 1⟩, ⟨0x1BC, 0x1, 1, 1⟩,
   ⟨0x1BF, 0x38, 1, 1⟩, ⟨0x1CD, 0x1, 8, 2⟩, ⟨0x1DE, 0x1, 9, 2⟩, ⟨0x1F4, 0x1, 1, 1⟩,
   ⟨0x1F8, 0x1, 20, 2⟩, ⟨0x222, 0x1, 9, 2⟩, ⟨0x23A, 0x2A2B, 1, 1⟩, ⟨0x23B, 0x1, 1, 1⟩,
   ⟨0x23E, 0x2A28, 1, 1⟩, ⟨0x23F, 0x2A3F, 2, 1⟩, ⟨0x241, 0x1, 1, 1⟩, ⟨0x244, 0x45, 1, 1⟩,
   ⟨0x245, 0x47, 1, 1⟩, ⟨0x246, 0x1, 5, 2⟩, ⟨0x250, 0x2A1F, 1, 1⟩, ⟨0x251, 0x2A1C, 1, 1⟩,
   ⟨0x252, 0x2A1E, 1, 1⟩, ⟨0x25C, 0xA54F, 1, 1⟩, ⟨0x261, 0xA54B, 1, 1⟩, ⟨0x264, 0xA567, 1, 1⟩,
   ⟨0x265, 0xA528, 1, 1⟩, ⟨0x266, 0xA544, 1, 1⟩, ⟨0x26A, 0xA544, 1, 1⟩, ⟨0x26B, 0x29F7, 1, 1⟩,
   ⟨0x26C, 0xA541, 1, 1⟩, ⟨0x271, 0x29FD, 1, 1⟩, ⟨0x27D, 0x29E7, 1, 1⟩, ⟨0x282, 0xA543, 1, 1⟩,
   ⟨0x287, 0xA52A, 1, 1⟩, ⟨0x29D, 0xA515, 1, 1⟩, ⟨0x29E, 0xA512, 1, 1⟩, ⟨0x370, 0x1, 2, 2⟩,
   ⟨0x376, 0x1, 1, 1⟩, ⟨0x37B, 0x82, 3, 1⟩, ⟨0x37F, 0x74, 1, 1⟩, ⟨0x386, 0x26, 1, 1⟩,
   ⟨0x388, 0x25, 3, 1⟩, ⟨0x38C, 0x40, 1, 1⟩, ⟨0x38E, 0x3F, 2, 1⟩, ⟨0x391, 0x20, 2, 2⟩,
   ⟨0x394, 0x20, 2, 2⟩, ⟨0x397, 0x20, 1, 1⟩, ⟨0x39B, 0x20, 2, 2⟩, ⟨0x39E, 0x20, 2, 1⟩,
   ⟨0x3A4, 0x20, 2, 1⟩, ⟨0x3A7, 0x20, 2, 1⟩, ⟨0x3AA, 0x20, 2, 1⟩, ⟨0x3CF, 0x8, 1, 1⟩,
   ⟨0x3D8, 0x1, 12, 2⟩, ⟨0x3F2, 0x7, 1, 1⟩, ⟨0x3F7, 0x1, 1, 1⟩, ⟨0x3FA, 0x1, 1, 1⟩,
   ⟨0x400, 0x50, 16, 1⟩, ⟨0x410, 0x20, 2, 1⟩, ⟨0x413, 0x20, 2, 2⟩, ⟨0x416, 0x20, 8, 1⟩,
   ⟨0x41F, 0x20, 2, 1⟩, ⟨0x423, 0x20, 7, 1⟩, ⟨0x42B, 0x20, 5, 1⟩, ⟨0x460, 0x1, 1, 1⟩,
   ⟨0x464, 0x1, 15, 2⟩, ⟨0x48A, 0x1, 27, 2⟩, ⟨0x4C0, 0xF, 1, 1⟩, ⟨0x4C1, 0x1, 7, 2⟩,
   ⟨0x4D0, 0x1, 48, 2⟩, ⟨0x531, 0x30, 38, 1⟩, ⟨0x10A0, 0x1C60, 38, 1⟩, ⟨0x10C7, 0x1C60, 1, 1⟩,
   ⟨0x10CD, 0x1C60, 1, 1⟩, ⟨0x10D0, 0xBC0, 43, 1⟩, ⟨0x10FD, 0xBC0, 3, 1⟩, ⟨0x13A0, 0x97D0, 80, 1⟩,
   ⟨0x13F0, 0x8, 6, 1⟩, ⟨0x1C89, 0x1, 1, 1⟩, ⟨0x1D79, 0x8A04, 1, 1⟩, ⟨0x1D7D, 0xEE6, 1, 1⟩,
   ⟨0x1D8E, 0x8A38, 1, 1⟩, ⟨0x1E00, 0x1, 48, 2⟩, ⟨0x1E62, 0x1, 26, 2⟩, ⟨0x1EA0, 0x1, 48, 2⟩,
   ⟨0x1F00, 0x8, 8, 1⟩, ⟨0x1F10, 0x8, 6, 1⟩, ⟨0x1F20, 0x8, 8, 1⟩, ⟨0x1F30, 0x8, 8, 1⟩,
   ⟨0x1F40, 0x8, 6, 1⟩, ⟨0x1F51, 0x8, 4, 2⟩, ⟨0x1F60, 0x8, 8, 1⟩, ⟨0x1F70, 0x4A, 2, 1⟩,
   ⟨0x1F72, 0x56, 4, 1⟩, ⟨0x1F76, 0x64, 2, 1⟩, ⟨0x1F78, 0x80, 2, 1⟩, ⟨0x1F7A, 0x70, 2, 1⟩,
   ⟨0x1F7C, 0x7E, 2, 1⟩, ⟨0x1F80, 0x8, 8, 1⟩, ⟨0x1F90, 0x8, 8, 1⟩, ⟨0x1FA0, 0x8, 8, 1⟩,
   ⟨0x1FB0, 0x8, 2, 1⟩, ⟨0x1FB3, 0x9, 1, 1⟩, ⟨0x1FC3, 0x9, 1, 1⟩, ⟨0x1FD0, 0x8, 2, 1⟩,
   ⟨0x1FE0, 0x8, 2, 1⟩, ⟨0x1FE5, 0x7, 1, 1⟩, ⟨0x1FF3, 0x9, 1, 1⟩, ⟨0x2132, 0x1C, 1, 1⟩,
   ⟨0x2160, 0x10, 16, 1⟩, ⟨0x2183, 0x1, 1, 1⟩, ⟨0x24B6, 0x1A, 26, 1⟩, ⟨0x2C00, 0x30, 48, 1⟩,
   ⟨0x2C60, 0x1, 1, 1⟩, ⟨0x2C67, 0x1, 3, 2⟩, ⟨0x2C72, 0x1, 1, 1⟩, ⟨0x2C75, 0x1, 1, 1⟩,
   ⟨0x2C80, 0x1, 50, 2⟩, ⟨0x2CEB, 0x1, 2, 2⟩, ⟨0x2CF2, 0x1, 1, 1⟩, ⟨0xA640, 0x1, 5, 2⟩,
   ⟨0xA64C, 0x1, 17, 2⟩, ⟨0xA680, 0x1, 14, 2⟩, ⟨0xA722, 0x1, 7, 2⟩, ⟨0xA732, 0x1, 31, 2⟩,
   ⟨0xA779, 0x1, 2, 2⟩, ⟨0xA77E, 0x1, 5, 2⟩, ⟨0xA78B, 0x1, 1, 1⟩, ⟨0xA790, 0x1, 2, 2⟩,
   ⟨0xA794, 0x30, 1, 1⟩, ⟨0xA796, 0x1, 10, 2⟩, ⟨0xA7B3, 0x3A0, 1, 1⟩, ⟨0xA7B4, 0x1, 8, 2⟩,
   ⟨0xA7C7, 0x1, 2, 2⟩, ⟨0xA7CC, 0x1, 8, 2⟩, ⟨0xA7F5, 0x1, 1, 1⟩, ⟨0xFF21, 0x20, 26, 1⟩,
   ⟨0x10400, 0x28, 40, 1⟩, ⟨0x104B0, 0x28, 36, 1⟩, ⟨0x10570, 0x27, 11, 1⟩, ⟨0x1057C, 0x27, 15, 1⟩,
   ⟨0x1058C, 0x27, 7, 1⟩, ⟨0x10594, 0x27, 2, 1⟩, ⟨0x10C80, 0x40, 51, 1⟩, ⟨0x10D50, 0x20, 22, 1⟩,
   ⟨0x118A0, 0x20, 32, 1⟩, ⟨0x16E40, 0x20, 32, 1⟩, ⟨0x16EA0, 0x1B, 25, 1⟩, ⟨0x1E900, 0x22, 34, 1⟩]

/-- The orbits of more than two code points. -/
def foldOrbits : List (List Nat) :=
  [[0x4B, 0x6B, 0x212A],
   [0x53, 0x73, 0x17F],
   [0xB5, 0x39C, 0x3BC],
   [0xC5, 0xE5, 0x212B],
   [0x1C4, 0x1C5, 0x1C6],
   [0x1C7, 0x1C8, 0x1C9],
   [0x1CA, 0x1CB, 0x1CC],
   [0x1F1, 0x1F2, 0x1F3],
   [0x345, 0x399, 0x3B9, 0x1FBE],
   [0x392, 0x3B2, 0x3D0],
   [0x395, 0x3B5, 0x3F5],
   [0x398, 0x3B8, 0x3D1, 0x3F4],
   [0x39A, 0x3BA, 0x3F0],
   [0x3A0, 0x3C0, 0x3D6],
   [0x3A1, 0x3C1, 0x3F1],
   [0x3A3, 0x3C2, 0x3C3],
   [0x3A6, 0x3C6, 0x3D5],
   [0x3A9, 0x3C9, 0x2126],
   [0x412, 0x432, 0x1C80],
   [0x414, 0x434, 0x1C81],
   [0x41E, 0x43E, 0x1C82],
   [0x421, 0x441, 0x1C83],
   [0x422, 0x442, 0x1C84, 0x1C85],
   [0x42A, 0x44A, 0x1C86],
   [0x462, 0x463, 0x1C87],
   [0x1C88, 0xA64A, 0xA64B],
   [0x1E60, 0x1E61, 0x1E9B]]

/-- All orbits of two code points. -/
def foldPairs : List (Nat × Nat) :=
  foldPairRuns.flatMap FoldPairRun.pairs

/-- The points to add to a set so that it holds every orbit that it meets. -/
def foldedPoints (s : CodeSet) : List Nat :=
  let ofPairs := foldPairs.flatMap fun p =>
    match s.contains p.1, s.contains p.2 with
    | true, false => [p.2]
    | false, true => [p.1]
    | _, _ => []
  let ofOrbits := foldOrbits.flatMap fun orbit =>
    if orbit.any s.contains then orbit.filter fun x => !s.contains x else []
  ofPairs ++ ofOrbits

end Text

/-- The set with all case variants of its members. -/
def CodeSet.foldCase (s : CodeSet) : CodeSet :=
  s.union (CodeSet.ofPoints (Text.foldedPoints s))

end FileSieve
