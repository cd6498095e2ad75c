/-!
# Upper case

The full upper-case mapping of Unicode text.  Most letters map to one letter,
a fixed distance away along a run of letters; some map to two or three
characters, as `ß` to `SS`.

Result: on ASCII the mapping is the core library's (`upperChar_ascii`).
-/

namespace Spreadsheet
namespace Text

/-- A run of letters `first`, `first + step`, … , `last`, whose capitals lie at
`distance`. -/
structure CaseRun where
  first : Nat
  last : Nat
  step : Nat
  distance : Int

/-- The runs outside ASCII. -/
def caseRuns : List CaseRun :=
  [
    ⟨0x000b5, 0x000b5, 1, 743⟩, ⟨0x000e0, 0x000f6, 1, -32⟩, ⟨0x000f8, 0x000fe, 1, -32⟩,
    ⟨0x000ff, 0x000ff, 1, 121⟩, ⟨0x00101, 0x0012f, 2, -1⟩, ⟨0x00131, 0x00131, 1, -232⟩,
    ⟨0x00133, 0x00137, 2, -1⟩, ⟨0x0013a, 0x00148, 2, -1⟩, ⟨0x0014b, 0x00177, 2, -1⟩,
    ⟨0x0017a, 0x0017e, 2, -1⟩, ⟨0x0017f, 0x0017f, 1, -300⟩, ⟨0x00180, 0x00180, 1, 195⟩,
    ⟨0x00183, 0x00185, 2, -1⟩, ⟨0x00188, 0x00188, 1, -1⟩, ⟨0x0018c, 0x0018c, 1, -1⟩,
    ⟨0x00192, 0x00192, 1, -1⟩, ⟨0x00195, 0x00195, 1, 97⟩, ⟨0x00199, 0x00199, 1, -1⟩,
    ⟨0x0019a, 0x0019a, 1, 163⟩, ⟨0x0019e, 0x0019e, 1, 130⟩, ⟨0x001a1, 0x001a5, 2, -1⟩,
    ⟨0x001a8, 0x001a8, 1, -1⟩, ⟨0x001ad, 0x001ad, 1, -1⟩, ⟨0x001b0, 0x001b0, 1, -1⟩,
    ⟨0x001b4, 0x001b6, 2, -1⟩, ⟨0x001b9, 0x001b9, 1, -1⟩, ⟨0x001bd, 0x001bd, 1, -1⟩,
    ⟨0x001bf, 0x001bf, 1, 56⟩, ⟨0x001c5, 0x001c5, 1, -1⟩, ⟨0x001c6, 0x001c6, 1, -2⟩,
    ⟨0x001c8, 0x001c8, 1, -1⟩, ⟨0x001c9, 0x001c9, 1, -2⟩, ⟨0x001cb, 0x001cb, 1, -1⟩,
    ⟨0x001cc, 0x001cc, 1, -2⟩, ⟨0x001ce, 0x001dc, 2, -1⟩, ⟨0x001dd, 0x001dd, 1, -79⟩,
    ⟨0x001df, 0x001ef, 2, -1⟩, ⟨0x001f2, 0x001f2, 1, -1⟩, ⟨0x001f3, 0x001f3, 1, -2⟩,
    ⟨0x001f5, 0x001f5, 1, -1⟩, ⟨0x001f9, 0x0021f, 2, -1⟩, ⟨0x00223, 0x00233, 2, -1⟩,
    ⟨0x0023c, 0x0023c, 1, -1⟩, ⟨0x0023f, 0x00240, 1, 10815⟩, ⟨0x00242, 0x00242, 1, -1⟩,
    ⟨0x00247, 0x0024f, 2, -1⟩, ⟨0x00250, 0x00250, 1, 10783⟩, ⟨0x00251, 0x00251, 1, 10780⟩,
    ⟨0x00252, 0x00252, 1, 10782⟩, ⟨0x00253, 0x00253, 1, -210⟩, ⟨0x00254, 0x00254, 1, -206⟩,
    ⟨0x00256, 0x00257, 1, -205⟩, ⟨0x00259, 0x00259, 1, -202⟩, ⟨0x0025b, 0x0025b, 1, -203⟩,
    ⟨0x0025c, 0x0025c, 1, 42319⟩, ⟨0x00260, 0x00260, 1, -205⟩, ⟨0x00261, 0x00261, 1, 42315⟩,
    ⟨0x00263, 0x00263, 1, -207⟩, ⟨0x00265, 0x00265, 1, 42280⟩, ⟨0x00266, 0x00266, 1, 42308⟩,
    ⟨0x00268, 0x00268, 1, -209⟩, ⟨0x00269, 0x00269, 1, -211⟩, ⟨0x0026a, 0x0026a, 1, 42308⟩,
    ⟨0x0026b, 0x0026b, 1, 10743⟩, ⟨0x0026c, 0x0026c, 1, 42305⟩, ⟨0x0026f, 0x0026f, 1, -211⟩,
    ⟨0x00271, 0x00271, 1, 10749⟩, ⟨0x00272, 0x00272, 1, -213⟩, ⟨0x00275, 0x00275, 1, -214⟩,
    ⟨0x0027d, 0x0027d, 1, 10727⟩, ⟨0x00280, 0x00280, 1, -218⟩, ⟨0x00282, 0x00282, 1, 42307⟩,
    ⟨0x00283, 0x00283, 1, -218⟩, ⟨0x00287, 0x00287, 1, 42282⟩, ⟨0x00288, 0x00288, 1, -218⟩,
    ⟨0x00289, 0x00289, 1, -69⟩, ⟨0x0028a, 0x0028b, 1, -217⟩, ⟨0x0028c, 0x0028c, 1, -71⟩,
    ⟨0x00292, 0x00292, 1, -219⟩, ⟨0x0029d, 0x0029d, 1, 42261⟩, ⟨0x0029e, 0x0029e, 1, 42258⟩,
    ⟨0x00345, 0x00345, 1, 84⟩, ⟨0x00371, 0x00373, 2, -1⟩, ⟨0x00377, 0x00377, 1, -1⟩,
    ⟨0x0037b, 0x0037d, 1, 130⟩, ⟨0x003ac, 0x003ac, 1, -38⟩, ⟨0x003ad, 0x003af, 1, -37⟩,
    ⟨0x003b1, 0x003c1, 1, -32⟩, ⟨0x003c2, 0x003c2, 1, -31⟩, ⟨0x003c3, 0x003cb, 1, -32⟩,
    ⟨0x003cc, 0x003cc, 1, -64⟩, ⟨0x003cd, 0x003ce, 1, -63⟩, ⟨0x003d0, 0x003d0, 1, -62⟩,
    ⟨0x003d1, 0x003d1, 1, -57⟩, ⟨0x003d5, 0x003d5, 1, -47⟩, ⟨0x003d6, 0x003d6, 1, -54⟩,
    ⟨0x003d7, 0x003d7, 1, -8⟩, ⟨0x003d9, 0x003ef, 2, -1⟩, ⟨0x003f0, 0x003f0, 1, -86⟩,
    ⟨0x003f1, 0x003f1, 1, -80⟩, ⟨0x003f2, 0x003f2, 1, 7⟩, ⟨0x003f3, 0x003f3, 1, -116⟩,
    ⟨0x003f5, 0x003f5, 1, -96⟩, ⟨0x003f8, 0x003f8, 1, -1⟩, ⟨0x003fb, 0x003fb, 1, -1⟩,
    ⟨0x00430, 0x0044f, 1, -32⟩, ⟨0x00450, 0x0045f, 1, -80⟩, ⟨0x00461, 0x00481, 2, -1⟩,
    ⟨0x0048b, 0x004bf, 2, -1⟩, ⟨0x004c2, 0x004ce, 2, -1⟩, ⟨0x004cf, 0x004cf, 1, -15⟩,
    ⟨0x004d1, 0x0052f, 2, -1⟩, ⟨0x00561, 0x00586, 1, -48⟩, ⟨0x010d0, 0x010fa, 1, 3008⟩,
    ⟨0x010fd, 0x010ff, 1, 3008⟩, ⟨0x013f8, 0x013fd, 1, -8⟩, ⟨0x01c80, 0x01c80, 1, -6254⟩,
    ⟨0x01c81, 0x01c81, 1, -6253⟩, ⟨0x01c82, 0x01c82, 1, -6244⟩, ⟨0x01c83, 0x01c84, 1, -6242⟩,
    ⟨0x01c85, 0x01c85, 1, -6243⟩, ⟨0x01c86, 0x01c86, 1, -6236⟩, ⟨0x01c87, 0x01c87, 1, -6181⟩,
    ⟨0x01c88, 0x01c88, 1, 35266⟩, ⟨0x01d79, 0x01d79, 1, 35332⟩, ⟨0x01d7d, 0x01d7d, 1, 3814⟩,
    ⟨0x01d8e, 0x01d8e, 1, 35384⟩, ⟨0x01e01, 0x01e95, 2, -1⟩, ⟨0x01e9b, 0x01e9b, 1, -59⟩,
    ⟨0x01ea1, 0x01eff, 2, -1⟩, ⟨0x01f00, 0x01f07, 1, 8⟩, ⟨0x01f10, 0x01f15, 1, 8⟩,
    ⟨0x01f20, 0x01f27, 1, 8⟩, ⟨0x01f30, 0x01f37, 1, 8⟩, ⟨0x01f40, 0x01f45, 1, 8⟩,
    ⟨0x01f51, 0x01f57, 2, 8⟩, ⟨0x01f60, 0x01f67, 1, 8⟩, ⟨0x01f70, 0x01f71, 1, 74⟩,
    ⟨0x01f72, 0x01f75, 1, 86⟩, ⟨0x01f76, 0x01f77, 1, 100⟩, ⟨0x01f78, 0x01f79, 1, 128⟩,
    ⟨0x01f7a, 0x01f7b, 1, 112⟩, ⟨0x01f7c, 0x01f7d, 1, 126⟩, ⟨0x01fb0, 0x01fb1, 1, 8⟩,
    ⟨0x01fbe, 0x01fbe, 1, -7205⟩, ⟨0x01fd0, 0x01fd1, 1, 8⟩, ⟨0x01fe0, 0x01fe1, 1, 8⟩,
    ⟨0x01fe5, 0x01fe5, 1, 7⟩, ⟨0x0214e, 0x0214e, 1, -28⟩, ⟨0x02170, 0x0217f, 1, -16⟩,
    ⟨0x02184, 0x02184, 1, -1⟩, ⟨0x024d0, 0x024e9, 1, -26⟩, ⟨0x02c30, 0x02c5f, 1, -48⟩,
    ⟨0x02c61, 0x02c61, 1, -1⟩, ⟨0x02c65, 0x02c65, 1, -10795⟩, ⟨0x02c66, 0x02c66, 1, -10792⟩,
    ⟨0x02c68, 0x02c6c, 2, -1⟩, ⟨0x02c73, 0x02c73, 1, -1⟩, ⟨0x02c76, 0x02c76, 1, -1⟩,
    ⟨0x02c81, 0x02ce3, 2, -1⟩, ⟨0x02cec, 0x02cee, 2, -1⟩, ⟨0x02cf3, 0x02cf3, 1, -1⟩,
    ⟨0x02d00, 0x02d25, 1, -7264⟩, ⟨0x02d27, 0x02d27, 1, -7264⟩, ⟨0x02d2d, 0x02d2d, 1, -7264⟩,
    ⟨0x0a641, 0x0a66d, 2, -1⟩, ⟨0x0a681, 0x0a69b, 2, -1⟩, ⟨0x0a723, 0x0a72f, 2, -1⟩,
    ⟨0x0a733, 0x0a76f, 2, -1⟩, ⟨0x0a77a, 0x0a77c, 2, -1⟩, ⟨0x0a77f, 0x0a787, 2, -1⟩,
    ⟨0x0a78c, 0x0a78c, 1, -1⟩, ⟨0x0a791, 0x0a793, 2, -1⟩, ⟨0x0a794, 0x0a794, 1, 48⟩,
    ⟨0x0a797, 0x0a7a9, 2, -1⟩, ⟨0x0a7b5, 0x0a7c3, 2, -1⟩, ⟨0x0a7c8, 0x0a7ca, 2, -1⟩,
    ⟨0x0a7d1, 0x0a7d1, 1, -1⟩, ⟨0x0a7d7, 0x0a7d9, 2, -1⟩, ⟨0x0a7f6, 0x0a7f6, 1, -1⟩,
    ⟨0x0ab53, 0x0ab53, 1, -928⟩, ⟨0x0ab70, 0x0abbf, 1, -38864⟩, ⟨0x0ff41, 0x0ff5a, 1, -32⟩,
    ⟨0x10428, 0x1044f, 1, -40⟩, ⟨0x104d8, 0x104fb, 1, -40⟩, ⟨0x10597, 0x105a1, 1, -39⟩,
    ⟨0x105a3, 0x105b1, 1, -39⟩, ⟨0x105b3, 0x105b9, 1, -39⟩, ⟨0x105bb, 0x105bc, 1, -39⟩,
    ⟨0x10cc0, 0x10cf2, 1, -64⟩, ⟨0x118c0, 0x118df, 1, -32⟩, ⟨0x16e60, 0x16e7f, 1, -32⟩,
    ⟨0x1e922, 0x1e943, 1, -34⟩]

/-- The letters whose upper case is more than one character. -/
def longCapitals : List (Nat × List Nat) :=
  [
    (0x000df, [0x00053, 0x00053]), (0x00149, [0x002bc, 0x0004e]), (0x001f0, [0x0004a, 0x0030c]),
    (0x00390, [0x00399, 0x00308, 0x00301]), (0x003b0, [0x003a5, 0x00308, 0x00301]), (0x00587, [0x00535, 0x00552]),
    (0x01e96, [0x00048, 0x00331]), (0x01e97, [0x00054, 0x00308]), (0x01e98, [0x00057, 0x0030a]),
    (0x01e99, [0x00059, 0x0030a]), (0x01e9a, [0x00041, 0x002be]), (0x01f50, [0x003a5, 0x00313]),
    (0x01f52, [0x003a5, 0x00313, 0x00300]), (0x01f54, [0x003a5, 0x00313, 0x00301]), (0x01f56, [0x003a5, 0x00313, 0x00342]),
    (0x01f80, [0x01f08, 0x00399]), (0x01f81, [0x01f09, 0x00399]), (0x01f82, [0x01f0a, 0x00399]),
    (0x01f83, [0x01f0b, 0x00399]), (0x01f84, [0x01f0c, 0x00399]), (0x01f85, [0x01f0d, 0x00399]),
    (0x01f86, [0x01f0e, 0x00399]), (0x01f87, [0x01f0f, 0x00399]), (0x01f88, [0x01f08, 0x00399]),
    (0x01f89, [0x01f09, 0x00399]), (0x01f8a, [0x01f0a, 0x00399]), (0x01f8b, [0x01f0b, 0x00399]),
    (0x01f8c, [0x01f0c, 0x00399]), (0x01f8d, [0x01f0d, 0x00399]), (0x01f8e, [0x01f0e, 0x00399]),
    (0x01f8f, [0x01f0f, 0x00399]), (0x01f90, [0x01f28, 0x00399]), (0x01f91, [0x01f29, 0x00399]),
    (0x01f92, [0x01f2a, 0x00399]), (0x01f93, [0x01f2b, 0x00399]), (0x01f94, [0x01f2c, 0x00399]),
    (0x01f95, [0x01f2d, 0x00399]), (0x01f96, [0x01f2e, 0x00399]), (0x01f97, [0x01f2f, 0x00399]),
    (0x01f98, [0x01f28, 0x00399]), (0x01f99, [0x01f29, 0x00399]), (0x01f9a, [0x01f2a, 0x00399]),
    (0x01f9b, [0x01f2b, 0x00399]), (0x01f9c, [0x01f2c, 0x00399]), (0x01f9d, [0x01f2d, 0x00399]),
    (0x01f9e, [0x01f2e, 0x00399]), (0x01f9f, [0x01f2f, 0x00399]), (0x01fa0, [0x01f68, 0x00399]),
    (0x01fa1, [0x01f69, 0x00399]), (0x01fa2, [0x01f6a, 0x00399]), (0x01fa3, [0x01f6b, 0x00399]),
    (0x01fa4, [0x01f6c, 0x00399]), (0x01fa5, [0x01f6d, 0x00399]), (0x01fa6, [0x01f6e, 0x00399]),
    (0x01fa7, [0x01f6f, 0x00399]), (0x01fa8, [0x01f68, 0x00399]), (0x01fa9, [0x01f69, 0x00399]),
    (0x01faa, [0x01f6a, 0x00399]), (0x01fab, [0x01f6b, 0x00399]), (0x01fac, [0x01f6c, 0x00399]),
    (0x01fad, [0x01f6d, 0x00399]), (0x01fae, [0x01f6e, 0x00399]), (0x01faf, [0x01f6f, 0x00399]),
    (0x01fb2, [0x01fba, 0x00399]), (0x01fb3, [0x00391, 0x00399]), (0x01fb4, [0x00386, 0x00399]),
    (0x01fb6, [0x00391, 0x00342]), (0x01fb7, [0x00391, 0x00342, 0x00399]), (0x01fbc, [0x00391, 0x00399]),
    (0x01fc2, [0x01fca, 0x00399]), (0x01fc3, [0x00397, 0x00399]), (0x01fc4, [0x00389, 0x00399]),
    (0x01fc6, [0x00397, 0x00342]), (0x01fc7, [0x00397, 0x00342, 0x00399]), (0x01fcc, [0x00397, 0x00399]),
    (0x01fd2, [0x00399, 0x00308, 0x00300]), (0x01fd3, [0x00399, 0x00308, 0x00301]), (0x01fd6, [0x00399, 0x00342]),
    (0x01fd7, [0x00399, 0x00308, 0x00342]), (0x01fe2, [0x003a5, 0x00308, 0x00300]), (0x01fe3, [0x003a5, 0x00308, 0x00301]),
    (0x01fe4, [0x003a1, 0x00313]), (0x01fe6, [0x003a5, 0x00342]), (0x01fe7, [0x003a5, 0x00308, 0x00342]),
    (0x01ff2, [0x01ffa, 0x00399]), (0x01ff3, [0x003a9, 0x00399]), (0x01ff4, [0x0038f, 0x00399]),
    (0x01ff6, [0x003a9, 0x00342]), (0x01ff7, [0x003a9, 0x00342, 0x00399]), (0x01ffc, [0x003a9, 0x00399]),
    (0x0fb00, [0x00046, 0x00046]), (0x0fb01, [0x00046, 0x00049]), (0x0fb02, [0x00046, 0x0004c]),
    (0x0fb03, [0x00046, 0x00046, 0x00049]), (0x0fb04, [0x00046, 0x00046, 0x0004c]), (0x0fb05, [0x00053, 0x00054]),
    (0x0fb06, [0x00053, 0x00054]), (0x0fb13, [0x00544, 0x00546]), (0x0fb14, [0x00544, 0x00535]),
    (0x0fb15, [0x00544, 0x0053b]), (0x0fb16, [0x0054e, 0x00546]), (0x0fb17, [0x00544, 0x0053d])]

/-- The letter belongs to the run. -/
def CaseRun.covers (r : CaseRun) (n : Nat) : Bool :=
  r.first ≤ n && n ≤ r.last && (n - r.first) % r.step == 0

/-- The upper case of one character. -/
def upperChar (c : Char) : List Char :=
  let n := c.toNat
  if n < 0x80 then
    [c.toUpper]
  else
    match longCapitals.find? (·.1 == n) with
    | some (_, capitals) => capitals.map Char.ofNat
    | none =>
      match caseRuns.find? (·.covers n) with
      | some r => [Char.ofNat (n + r.distance).toNat]
      | none => [c]

/-- The upper case of a text. -/
def upper (s : List Char) : List Char :=
  s.flatMap upperChar

section Lemmas

@[simp] theorem upper_nil :
    upper [] = [] := rfl

@[simp] theorem upper_cons
    (c : Char) (s : List Char) :
    upper (c :: s) = upperChar c ++ upper s := by
  simp [upper]

theorem upperChar_ascii
    {c : Char}
    (h : c.toNat < 0x80) :
    upperChar c = [c.toUpper] := by
  simp [upperChar, h]

end Lemmas

end Text
end Spreadsheet
