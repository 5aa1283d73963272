/-!
Byte strings, and the four-byte big-endian numbers that frame headers are made of.
-/

namespace Heartbeat

abbrev Bytes := List UInt8

namespace Bytes

def ofBigEndian : Bytes → Nat :=
  List.foldl (fun n b => n * 256 + b.toNat) 0

/-- The four bytes of `n`, most significant first. Larger numbers lose their high part. -/
def bigEndian4 (n : Nat) : Bytes :=
  [(n / 16777216).toUInt8, (n / 65536).toUInt8, (n / 256).toUInt8, n.toUInt8]

@[simp] theorem length_bigEndian4 (n : Nat) : (bigEndian4 n).length = 4 := rfl

theorem ofBigEndian_bigEndian4 (h : n < 4294967296) :
    ofBigEndian (bigEndian4 n) = n := by
  simp only [ofBigEndian, bigEndian4, List.foldl_cons, List.foldl_nil, Nat.toUInt8,
    UInt8.toNat_ofNat']
  omega

end Bytes

end Heartbeat
