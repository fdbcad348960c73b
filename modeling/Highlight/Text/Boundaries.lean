namespace Highlight.Text

-- Membership: an odd number of boundaries is at or below `c`.
def covers : List Nat → Nat → Bool
  | [], _ => false
  | b :: bs, c => if c < b then false else !covers bs c

-- Some point from `lo` to `hi` is a member: `lo` is, or membership changes on the way.
def coversSome (bs : List Nat) (lo hi : Nat) : Bool :=
  covers bs lo || bs.any fun b => lo < b && b ≤ hi

end Highlight.Text
