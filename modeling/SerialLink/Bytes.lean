namespace SerialLink

/-- Raw bytes, in the order they travel. -/
abbrev Bytes := List UInt8

end SerialLink
