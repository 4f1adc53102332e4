import Packrat.Text.CodeSet

/-! What version 17.0 of the Unicode standard adds to the tables. -/
namespace Packrat.Text.Table

def addedAlphabetic : CodeSet := ⟨#[
  0x88f, 0x890, 0xc5c, 0xc5d, 0xcdc, 0xcdd, 0xa7ce, 0xa7d0, 0xa7d2, 0xa7d3, 0xa7d4, 0xa7d5, 0xa7f1,
  0xa7f2, 0x10940, 0x1095a, 0x10ec5, 0x10ec8, 0x10efa, 0x10efc, 0x11b60, 0x11b68, 0x11db0, 0x11ddc,
  0x16ea0, 0x16eb9, 0x16ebb, 0x16ed4, 0x16ff2, 0x16ff7, 0x187f8, 0x18800, 0x18d09, 0x18d1f, 0x18d80,
  0x18df3, 0x1e6c0, 0x1e6df, 0x1e6e0, 0x1e6f6, 0x1e6fe, 0x1e700, 0x2b73a, 0x2b740, 0x2cea2, 0x2ceae,
  0x323b0, 0x3347a]⟩

def addedNumeric : CodeSet := ⟨#[0x11de0, 0x11dea, 0x16ff4, 0x16ff7]⟩

def addedNonspacingMark : CodeSet := ⟨#[
  0x1acf, 0x1ade, 0x1ae0, 0x1aec, 0x10efa, 0x10efc, 0x11b60, 0x11b61, 0x11b62, 0x11b65, 0x11b66,
  0x11b67, 0x1e6e3, 0x1e6e4, 0x1e6e6, 0x1e6e7, 0x1e6ee, 0x1e6f0, 0x1e6f5, 0x1e6f6]⟩

/-- All characters that version 17.0 adds. None of them is a separator or a control. -/
def addedCharacters : CodeSet := ⟨#[
  0x88f, 0x890, 0xc5c, 0xc5d, 0xcdc, 0xcdd, 0x1acf, 0x1ade, 0x1ae0, 0x1aec, 0x20c1, 0x20c2, 0x2b96,
  0x2b97, 0xa7ce, 0xa7d0, 0xa7d2, 0xa7d3, 0xa7d4, 0xa7d5, 0xa7f1, 0xa7f2, 0xfbc3, 0xfbd3, 0xfd90,
  0xfd92, 0xfdc8, 0xfdcf, 0x10940, 0x1095a, 0x10ec5, 0x10ec8, 0x10ed0, 0x10ed9, 0x10efa, 0x10efc,
  0x11b60, 0x11b68, 0x11db0, 0x11ddc, 0x11de0, 0x11dea, 0x16ea0, 0x16eb9, 0x16ebb, 0x16ed4, 0x16ff2,
  0x16ff7, 0x187f8, 0x18800, 0x18d09, 0x18d1f, 0x18d80, 0x18df3, 0x1ccfa, 0x1ccfd, 0x1ceba, 0x1ced1,
  0x1cee0, 0x1cef1, 0x1e6c0, 0x1e6df, 0x1e6e0, 0x1e6f6, 0x1e6fe, 0x1e700, 0x1f6d8, 0x1f6d9, 0x1f777,
  0x1f77b, 0x1f8d0, 0x1f8d9, 0x1fa54, 0x1fa58, 0x1fa8a, 0x1fa8b, 0x1fa8e, 0x1fa8f, 0x1fac8, 0x1fac9,
  0x1facd, 0x1face, 0x1faea, 0x1faeb, 0x1faef, 0x1faf0, 0x1fbfa, 0x1fbfb, 0x2b73a, 0x2b740, 0x2cea2,
  0x2ceae, 0x323b0, 0x3347a]⟩

end Packrat.Text.Table
