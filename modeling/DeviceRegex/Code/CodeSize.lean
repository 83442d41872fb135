import DeviceRegex.Pattern.Node
import DeviceRegex.Size

/-!
# The size of code

The number of instructions of a pattern is known before any code is laid out, so that
a pattern whose code would be too long is refused without writing it out. Sizes stop at
the largest one, far beyond any code that is accepted.
-/
namespace DeviceRegex

/-- The length of a repeated body. A body without code is not repeated; otherwise each
optional copy has a split, and an unlimited repetition has a split, and a jump if it may
be skipped. Lengths stop at the largest size. -/
def Quantifier.codeSize (times : Quantifier) (body : Size) : Size :=
  if body = 0 then 0
  else
    match times.max with
    | none =>
      if times.min = 0 then Size.satAdd body 2
      else Size.satAdd (Size.saturate (body.toNat * times.min)) 1
    | some max =>
      Size.satAdd (Size.saturate (body.toNat * times.min))
        (Size.saturate ((max - times.min) * (Size.satAdd body 1).toNat))

mutual
/-- The number of instructions of a node, as a size. -/
def Node.codeSize : Node → Size
  | .empty => 0
  | .leaf _ => 1
  | .group (some _) body => Size.satAdd body.codeSize 2
  | .group none body => body.codeSize
  | .concat parts => Node.codeSizes parts
  | .alternate branches =>
    Size.satAdd (Size.saturate (2 * (branches.length - 1))) (Node.codeSizes branches)
  | .repetition body times => times.codeSize body.codeSize

/-- The number of instructions of all nodes of a list together, as a size. -/
def Node.codeSizes : List Node → Size
  | [] => 0
  | node :: nodes => Size.satAdd node.codeSize (Node.codeSizes nodes)
end

end DeviceRegex
