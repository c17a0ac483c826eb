import Postprocessor.Text.Utf8

/-!
# Code pages

A code page gives a character to each byte, or to some of them.

* `CodePage`: a code page, with its names.
* `CodePage.byte?`: the byte of a character.
* `isoPages`, `windowsPages`, `dosPages`, `macPages`, `ebcdicPages`: the pages in use.
* `CodePage.all`: all of them.
-/

namespace Postprocessor.Text

/-- A code page. -/
structure CodePage where
  name : String
  otherNames : List String
  /-- The characters of the bytes in ascending order, sixteen to a row, by four hexadecimal digits
  each; `FFFF` stands for none.  The last row ends with the last byte, and the bytes before the
  first row stand for themselves. -/
  rows : List String
  deriving DecidableEq, Repr

namespace CodePage

/-- The number that a hexadecimal digit in capitals stands for. -/
def digit (c : Char) : Nat := if c.isDigit then c.toNat - 48 else c.toNat - 55

/-- The codes in a row, four digits each. -/
def codes : List Char → List Nat
  | a :: b :: c :: d :: rest =>
    (4096 * digit a + 256 * digit b + 16 * digit c + digit d) :: codes rest
  | _ => []

/-- The codes of the bytes that do not stand for themselves. -/
def table (p : CodePage) : List Nat := p.rows.flatMap fun row => codes row.toList

/-- The byte of a code, in a table that ends with the last byte. -/
def byteIn? (table : List Nat) (code : Nat) : Option UInt8 :=
  let first := 256 - table.length
  if code < first then some code.toUInt8
  else if code = 0xFFFF then none
  else (table.idxOf? code).map fun i => (first + i).toUInt8

/-- The byte of a character. -/
def byte? (p : CodePage) (c : Char) : Option UInt8 := byteIn? p.table c.toNat

end CodePage

/-! ### The pages -/

/-- The pages of the ISO 8859 family, whose lower half is ASCII. -/
def isoPages : List CodePage := [
  ⟨"iso8859_10",
   ["csisolatin6", "iso_8859_10", "iso_8859_10_1992", "iso_ir_157", "l6", "latin6"], [
    "0080008100820083008400850086008700880089008A008B008C008D008E008F",
    "0090009100920093009400950096009700980099009A009B009C009D009E009F",
    "00A0010401120122012A0128013600A7013B011001600166017D00AD016A014A",
    "00B0010501130123012B0129013700B7013C011101610167017E2015016B014B",
    "010000C100C200C300C400C500C6012E010C00C9011800CB011600CD00CE00CF",
    "00D00145014C00D300D400D500D6016800D8017200DA00DB00DC00DD00DE00DF",
    "010100E100E200E300E400E500E6012F010D00E9011900EB011700ED00EE00EF",
    "00F00146014D00F300F400F500F6016900F8017300FA00FB00FC00FD00FE0138"]⟩,
  ⟨"iso8859_11", ["iso_8859_11", "iso_8859_11_2001", "thai"], [
    "0080008100820083008400850086008700880089008A008B008C008D008E008F",
    "0090009100920093009400950096009700980099009A009B009C009D009E009F",
    "00A00E010E020E030E040E050E060E070E080E090E0A0E0B0E0C0E0D0E0E0E0F",
    "0E100E110E120E130E140E150E160E170E180E190E1A0E1B0E1C0E1D0E1E0E1F",
    "0E200E210E220E230E240E250E260E270E280E290E2A0E2B0E2C0E2D0E2E0E2F",
    "0E300E310E320E330E340E350E360E370E380E390E3AFFFFFFFFFFFFFFFF0E3F",
    "0E400E410E420E430E440E450E460E470E480E490E4A0E4B0E4C0E4D0E4E0E4F",
    "0E500E510E520E530E540E550E560E570E580E590E5A0E5BFFFFFFFFFFFFFFFF"]⟩,
  ⟨"iso8859_13", ["iso_8859_13", "l7", "latin7"], [
    "0080008100820083008400850086008700880089008A008B008C008D008E008F",
    "0090009100920093009400950096009700980099009A009B009C009D009E009F",
    "00A0201D00A200A300A4201E00A600A700D800A9015600AB00AC00AD00AE00C6",
    "00B000B100B200B3201C00B500B600B700F800B9015700BB00BC00BD00BE00E6",
    "0104012E0100010600C400C501180112010C00C90179011601220136012A013B",
    "01600143014500D3014C00D500D600D701720141015A016A00DC017B017D00DF",
    "0105012F0101010700E400E501190113010D00E9017A011701230137012B013C",
    "01610144014600F3014D00F500F600F701730142015B016B00FC017C017E2019"]⟩,
  ⟨"iso8859_14",
   ["iso_8859_14", "iso_8859_14_1998", "iso_celtic", "iso_ir_199", "l8", "latin8"], [
    "0080008100820083008400850086008700880089008A008B008C008D008E008F",
    "0090009100920093009400950096009700980099009A009B009C009D009E009F",
    "00A01E021E0300A3010A010B1E0A00A71E8000A91E821E0B1EF200AD00AE0178",
    "1E1E1E1F012001211E401E4100B61E561E811E571E831E601EF31E841E851E61",
    "00C000C100C200C300C400C500C600C700C800C900CA00CB00CC00CD00CE00CF",
    "017400D100D200D300D400D500D61E6A00D800D900DA00DB00DC00DD017600DF",
    "00E000E100E200E300E400E500E600E700E800E900EA00EB00EC00ED00EE00EF",
    "017500F100F200F300F400F500F61E6B00F800F900FA00FB00FC00FD017700FF"]⟩,
  ⟨"iso8859_15", ["iso_8859_15", "l9", "latin9"], [
    "0080008100820083008400850086008700880089008A008B008C008D008E008F",
    "0090009100920093009400950096009700980099009A009B009C009D009E009F",
    "00A000A100A200A320AC00A5016000A7016100A900AA00AB00AC00AD00AE00AF",
    "00B000B100B200B3017D00B500B600B7017E00B900BA00BB01520153017800BF",
    "00C000C100C200C300C400C500C600C700C800C900CA00CB00CC00CD00CE00CF",
    "00D000D100D200D300D400D500D600D700D800D900DA00DB00DC00DD00DE00DF",
    "00E000E100E200E300E400E500E600E700E800E900EA00EB00EC00ED00EE00EF",
    "00F000F100F200F300F400F500F600F700F800F900FA00FB00FC00FD00FE00FF"]⟩,
  ⟨"iso8859_16", ["iso_8859_16", "iso_8859_16_2001", "iso_ir_226", "l10", "latin10"], [
    "0080008100820083008400850086008700880089008A008B008C008D008E008F",
    "0090009100920093009400950096009700980099009A009B009C009D009E009F",
    "00A001040105014120AC201E016000A7016100A9021800AB017900AD017A017B",
    "00B000B1010C0142017D201D00B600B7017E010D021900BB015201530178017C",
    "00C000C100C2010200C4010600C600C700C800C900CA00CB00CC00CD00CE00CF",
    "0110014300D200D300D4015000D6015A017000D900DA00DB00DC0118021A00DF",
    "00E000E100E2010300E4010700E600E700E800E900EA00EB00EC00ED00EE00EF",
    "0111014400F200F300F4015100F6015B017100F900FA00FB00FC0119021B00FF"]⟩,
  ⟨"iso8859_2", ["csisolatin2", "iso_8859_2", "iso_8859_2_1987", "iso_ir_101", "l2", "latin2"], [
    "0080008100820083008400850086008700880089008A008B008C008D008E008F",
    "0090009100920093009400950096009700980099009A009B009C009D009E009F",
    "00A0010402D8014100A4013D015A00A700A80160015E0164017900AD017D017B",
    "00B0010502DB014200B4013E015B02C700B80161015F0165017A02DD017E017C",
    "015400C100C2010200C40139010600C7010C00C9011800CB011A00CD00CE010E",
    "01100143014700D300D4015000D600D70158016E00DA017000DC00DD016200DF",
    "015500E100E2010300E4013A010700E7010D00E9011900EB011B00ED00EE010F",
    "01110144014800F300F4015100F600F70159016F00FA017100FC00FD016302D9"]⟩,
  ⟨"iso8859_3", ["csisolatin3", "iso_8859_3", "iso_8859_3_1988", "iso_ir_109", "l3", "latin3"], [
    "0080008100820083008400850086008700880089008A008B008C008D008E008F",
    "0090009100920093009400950096009700980099009A009B009C009D009E009F",
    "00A0012602D800A300A4FFFF012400A700A80130015E011E013400ADFFFF017B",
    "00B0012700B200B300B400B5012500B700B80131015F011F013500BDFFFF017C",
    "00C000C100C2FFFF00C4010A010800C700C800C900CA00CB00CC00CD00CE00CF",
    "FFFF00D100D200D300D4012000D600D7011C00D900DA00DB00DC016C015C00DF",
    "00E000E100E2FFFF00E4010B010900E700E800E900EA00EB00EC00ED00EE00EF",
    "FFFF00F100F200F300F4012100F600F7011D00F900FA00FB00FC016D015D02D9"]⟩,
  ⟨"iso8859_4", ["csisolatin4", "iso_8859_4", "iso_8859_4_1988", "iso_ir_110", "l4", "latin4"], [
    "0080008100820083008400850086008700880089008A008B008C008D008E008F",
    "0090009100920093009400950096009700980099009A009B009C009D009E009F",
    "00A001040138015600A40128013B00A700A8016001120122016600AD017D00AF",
    "00B0010502DB015700B40129013C02C700B80161011301230167014A017E014B",
    "010000C100C200C300C400C500C6012E010C00C9011800CB011600CD00CE012A",
    "01100145014C013600D400D500D600D700D8017200DA00DB00DC0168016A00DF",
    "010100E100E200E300E400E500E6012F010D00E9011900EB011700ED00EE012B",
    "01110146014D013700F400F500F600F700F8017300FA00FB00FC0169016B02D9"]⟩,
  ⟨"iso8859_5",
   ["csisolatincyrillic", "cyrillic", "iso_8859_5", "iso_8859_5_1988", "iso_ir_144"], [
    "0080008100820083008400850086008700880089008A008B008C008D008E008F",
    "0090009100920093009400950096009700980099009A009B009C009D009E009F",
    "00A0040104020403040404050406040704080409040A040B040C00AD040E040F",
    "0410041104120413041404150416041704180419041A041B041C041D041E041F",
    "0420042104220423042404250426042704280429042A042B042C042D042E042F",
    "0430043104320433043404350436043704380439043A043B043C043D043E043F",
    "0440044104420443044404450446044704480449044A044B044C044D044E044F",
    "2116045104520453045404550456045704580459045A045B045C00A7045E045F"]⟩,
  ⟨"iso8859_6",
   ["arabic", "asmo_708", "csisolatinarabic", "ecma_114", "iso_8859_6", "iso_8859_6_1987",
    "iso_ir_127"], [
    "0080008100820083008400850086008700880089008A008B008C008D008E008F",
    "0090009100920093009400950096009700980099009A009B009C009D009E009F",
    "00A0FFFFFFFFFFFF00A4FFFFFFFFFFFFFFFFFFFFFFFFFFFF060C00ADFFFFFFFF",
    "FFFFFFFFFFFFFFFFFFFFFFFFFFFFFFFFFFFFFFFFFFFF061BFFFFFFFFFFFF061F",
    "FFFF062106220623062406250626062706280629062A062B062C062D062E062F",
    "0630063106320633063406350636063706380639063AFFFFFFFFFFFFFFFFFFFF",
    "0640064106420643064406450646064706480649064A064B064C064D064E064F",
    "065006510652FFFFFFFFFFFFFFFFFFFFFFFFFFFFFFFFFFFFFFFFFFFFFFFFFFFF"]⟩,
  ⟨"iso8859_7",
   ["csisolatingreek", "ecma_118", "elot_928", "greek", "greek8", "iso_8859_7", "iso_8859_7_1987",
    "iso_ir_126"], [
    "0080008100820083008400850086008700880089008A008B008C008D008E008F",
    "0090009100920093009400950096009700980099009A009B009C009D009E009F",
    "00A02018201900A320AC20AF00A600A700A800A9037A00AB00AC00ADFFFF2015",
    "00B000B100B200B303840385038600B703880389038A00BB038C00BD038E038F",
    "0390039103920393039403950396039703980399039A039B039C039D039E039F",
    "03A003A1FFFF03A303A403A503A603A703A803A903AA03AB03AC03AD03AE03AF",
    "03B003B103B203B303B403B503B603B703B803B903BA03BB03BC03BD03BE03BF",
    "03C003C103C203C303C403C503C603C703C803C903CA03CB03CC03CD03CEFFFF"]⟩,
  ⟨"iso8859_8", ["csisolatinhebrew", "hebrew", "iso_8859_8", "iso_8859_8_1988", "iso_ir_138"], [
    "0080008100820083008400850086008700880089008A008B008C008D008E008F",
    "0090009100920093009400950096009700980099009A009B009C009D009E009F",
    "00A0FFFF00A200A300A400A500A600A700A800A900D700AB00AC00AD00AE00AF",
    "00B000B100B200B300B400B500B600B700B800B900F700BB00BC00BD00BEFFFF",
    "FFFFFFFFFFFFFFFFFFFFFFFFFFFFFFFFFFFFFFFFFFFFFFFFFFFFFFFFFFFFFFFF",
    "FFFFFFFFFFFFFFFFFFFFFFFFFFFFFFFFFFFFFFFFFFFFFFFFFFFFFFFFFFFF2017",
    "05D005D105D205D305D405D505D605D705D805D905DA05DB05DC05DD05DE05DF",
    "05E005E105E205E305E405E505E605E705E805E905EAFFFFFFFF200E200FFFFF"]⟩,
  ⟨"iso8859_9", ["csisolatin5", "iso_8859_9", "iso_8859_9_1989", "iso_ir_148", "l5", "latin5"], [
    "0080008100820083008400850086008700880089008A008B008C008D008E008F",
    "0090009100920093009400950096009700980099009A009B009C009D009E009F",
    "00A000A100A200A300A400A500A600A700A800A900AA00AB00AC00AD00AE00AF",
    "00B000B100B200B300B400B500B600B700B800B900BA00BB00BC00BD00BE00BF",
    "00C000C100C200C300C400C500C600C700C800C900CA00CB00CC00CD00CE00CF",
    "011E00D100D200D300D400D500D600D700D800D900DA00DB00DC0130015E00DF",
    "00E000E100E200E300E400E500E600E700E800E900EA00EB00EC00ED00EE00EF",
    "011F00F100F200F300F400F500F600F700F800F900FA00FB00FC0131015F00FF"]⟩,
  ⟨"tis_620", ["iso_ir_166", "tis620", "tis_620_0", "tis_620_2529_0", "tis_620_2529_1"], [
    "0080008100820083008400850086008700880089008A008B008C008D008E008F",
    "0090009100920093009400950096009700980099009A009B009C009D009E009F",
    "FFFF0E010E020E030E040E050E060E070E080E090E0A0E0B0E0C0E0D0E0E0E0F",
    "0E100E110E120E130E140E150E160E170E180E190E1A0E1B0E1C0E1D0E1E0E1F",
    "0E200E210E220E230E240E250E260E270E280E290E2A0E2B0E2C0E2D0E2E0E2F",
    "0E300E310E320E330E340E350E360E370E380E390E3AFFFFFFFFFFFFFFFF0E3F",
    "0E400E410E420E430E440E450E460E470E480E490E4A0E4B0E4C0E4D0E4E0E4F",
    "0E500E510E520E530E540E550E560E570E580E590E5A0E5BFFFFFFFFFFFFFFFF"]⟩]

/-- The pages of Windows, and others for one language or one maker. -/
def windowsPages : List CodePage := [
  ⟨"cp1006", [], [
    "0080008100820083008400850086008700880089008A008B008C008D008E008F",
    "0090009100920093009400950096009700980099009A009B009C009D009E009F",
    "00A006F006F106F206F306F406F506F606F706F806F9060C061B00AD061FFE81",
    "FE8DFFFFFE8EFE8FFE91FB56FB58FE93FE95FE97FB66FB68FE99FE9BFE9DFE9F",
    "FB7AFB7CFEA1FEA3FEA5FEA7FEA9FB84FEABFEADFB8CFEAFFB8AFEB1FEB3FEB5",
    "FEB7FEB9FEBBFEBDFEBFFEC1FEC5FEC9FECAFECBFECCFECDFECEFECFFED0FED1",
    "FED3FED5FED7FED9FEDBFB92FB94FEDDFEDFFEE0FEE1FEE3FB9EFEE5FEE7FE85",
    "FEEDFBA6FBA8FBA9FBAAFE80FE89FE8AFE8BFEF1FEF2FEF3FBB0FBAEFE7CFE7D"]⟩,
  ⟨"cp1250", ["1250", "windows_1250"], [
    "20ACFFFF201AFFFF201E202620202021FFFF203001602039015A0164017D0179",
    "FFFF20182019201C201D202220132014FFFF21220161203A015B0165017E017A",
    "00A002C702D8014100A4010400A600A700A800A9015E00AB00AC00AD00AE017B",
    "00B000B102DB014200B400B500B600B700B80105015F00BB013D02DD013E017C",
    "015400C100C2010200C40139010600C7010C00C9011800CB011A00CD00CE010E",
    "01100143014700D300D4015000D600D70158016E00DA017000DC00DD016200DF",
    "015500E100E2010300E4013A010700E7010D00E9011900EB011B00ED00EE010F",
    "01110144014800F300F4015100F600F70159016F00FA017100FC00FD016302D9"]⟩,
  ⟨"cp1251", ["1251", "windows_1251"], [
    "04020403201A0453201E20262020202120AC203004092039040A040C040B040F",
    "045220182019201C201D202220132014FFFF21220459203A045A045C045B045F",
    "00A0040E045E040800A4049000A600A7040100A9040400AB00AC00AD00AE0407",
    "00B000B104060456049100B500B600B704512116045400BB0458040504550457",
    "0410041104120413041404150416041704180419041A041B041C041D041E041F",
    "0420042104220423042404250426042704280429042A042B042C042D042E042F",
    "0430043104320433043404350436043704380439043A043B043C043D043E043F",
    "0440044104420443044404450446044704480449044A044B044C044D044E044F"]⟩,
  ⟨"cp1252", ["1252", "windows_1252"], [
    "20ACFFFF201A0192201E20262020202102C62030016020390152FFFF017DFFFF",
    "FFFF20182019201C201D20222013201402DC21220161203A0153FFFF017E0178",
    "00A000A100A200A300A400A500A600A700A800A900AA00AB00AC00AD00AE00AF",
    "00B000B100B200B300B400B500B600B700B800B900BA00BB00BC00BD00BE00BF",
    "00C000C100C200C300C400C500C600C700C800C900CA00CB00CC00CD00CE00CF",
    "00D000D100D200D300D400D500D600D700D800D900DA00DB00DC00DD00DE00DF",
    "00E000E100E200E300E400E500E600E700E800E900EA00EB00EC00ED00EE00EF",
    "00F000F100F200F300F400F500F600F700F800F900FA00FB00FC00FD00FE00FF"]⟩,
  ⟨"cp1253", ["1253", "windows_1253"], [
    "20ACFFFF201A0192201E202620202021FFFF2030FFFF2039FFFFFFFFFFFFFFFF",
    "FFFF20182019201C201D202220132014FFFF2122FFFF203AFFFFFFFFFFFFFFFF",
    "00A00385038600A300A400A500A600A700A800A9FFFF00AB00AC00AD00AE2015",
    "00B000B100B200B3038400B500B600B703880389038A00BB038C00BD038E038F",
    "0390039103920393039403950396039703980399039A039B039C039D039E039F",
    "03A003A1FFFF03A303A403A503A603A703A803A903AA03AB03AC03AD03AE03AF",
    "03B003B103B203B303B403B503B603B703B803B903BA03BB03BC03BD03BE03BF",
    "03C003C103C203C303C403C503C603C703C803C903CA03CB03CC03CD03CEFFFF"]⟩,
  ⟨"cp1254", ["1254", "windows_1254"], [
    "20ACFFFF201A0192201E20262020202102C62030016020390152FFFFFFFFFFFF",
    "FFFF20182019201C201D20222013201402DC21220161203A0153FFFFFFFF0178",
    "00A000A100A200A300A400A500A600A700A800A900AA00AB00AC00AD00AE00AF",
    "00B000B100B200B300B400B500B600B700B800B900BA00BB00BC00BD00BE00BF",
    "00C000C100C200C300C400C500C600C700C800C900CA00CB00CC00CD00CE00CF",
    "011E00D100D200D300D400D500D600D700D800D900DA00DB00DC0130015E00DF",
    "00E000E100E200E300E400E500E600E700E800E900EA00EB00EC00ED00EE00EF",
    "011F00F100F200F300F400F500F600F700F800F900FA00FB00FC0131015F00FF"]⟩,
  ⟨"cp1255", ["1255", "windows_1255"], [
    "20ACFFFF201A0192201E20262020202102C62030FFFF2039FFFFFFFFFFFFFFFF",
    "FFFF20182019201C201D20222013201402DC2122FFFF203AFFFFFFFFFFFFFFFF",
    "00A000A100A200A320AA00A500A600A700A800A900D700AB00AC00AD00AE00AF",
    "00B000B100B200B300B400B500B600B700B800B900F700BB00BC00BD00BE00BF",
    "05B005B105B205B305B405B505B605B705B805B9FFFF05BB05BC05BD05BE05BF",
    "05C005C105C205C305F005F105F205F305F4FFFFFFFFFFFFFFFFFFFFFFFFFFFF",
    "05D005D105D205D305D405D505D605D705D805D905DA05DB05DC05DD05DE05DF",
    "05E005E105E205E305E405E505E605E705E805E905EAFFFFFFFF200E200FFFFF"]⟩,
  ⟨"cp1256", ["1256", "windows_1256"], [
    "20AC067E201A0192201E20262020202102C62030067920390152068606980688",
    "06AF20182019201C201D20222013201406A921220691203A0153200C200D06BA",
    "00A0060C00A200A300A400A500A600A700A800A906BE00AB00AC00AD00AE00AF",
    "00B000B100B200B300B400B500B600B700B800B9061B00BB00BC00BD00BE061F",
    "06C1062106220623062406250626062706280629062A062B062C062D062E062F",
    "063006310632063306340635063600D7063706380639063A0640064106420643",
    "00E0064400E2064506460647064800E700E800E900EA00EB0649064A00EE00EF",
    "064B064C064D064E00F4064F065000F7065100F9065200FB00FC200E200F06D2"]⟩,
  ⟨"cp1257", ["1257", "windows_1257"], [
    "20ACFFFF201AFFFF201E202620202021FFFF2030FFFF2039FFFF00A802C700B8",
    "FFFF20182019201C201D202220132014FFFF2122FFFF203AFFFF00AF02DBFFFF",
    "00A0FFFF00A200A300A4FFFF00A600A700D800A9015600AB00AC00AD00AE00C6",
    "00B000B100B200B300B400B500B600B700F800B9015700BB00BC00BD00BE00E6",
    "0104012E0100010600C400C501180112010C00C90179011601220136012A013B",
    "01600143014500D3014C00D500D600D701720141015A016A00DC017B017D00DF",
    "0105012F0101010700E400E501190113010D00E9017A011701230137012B013C",
    "01610144014600F3014D00F500F600F701730142015B016B00FC017C017E02D9"]⟩,
  ⟨"cp1258", ["1258", "windows_1258"], [
    "20ACFFFF201A0192201E20262020202102C62030FFFF20390152FFFFFFFFFFFF",
    "FFFF20182019201C201D20222013201402DC2122FFFF203A0153FFFFFFFF0178",
    "00A000A100A200A300A400A500A600A700A800A900AA00AB00AC00AD00AE00AF",
    "00B000B100B200B300B400B500B600B700B800B900BA00BB00BC00BD00BE00BF",
    "00C000C100C2010200C400C500C600C700C800C900CA00CB030000CD00CE00CF",
    "011000D1030900D300D401A000D600D700D800D900DA00DB00DC01AF030300DF",
    "00E000E100E2010300E400E500E600E700E800E900EA00EB030100ED00EE00EF",
    "011100F1032300F300F401A100F600F700F800F900FA00FB00FC01B020AB00FF"]⟩,
  ⟨"cp874", [], [
    "20ACFFFFFFFFFFFFFFFF2026FFFFFFFFFFFFFFFFFFFFFFFFFFFFFFFFFFFFFFFF",
    "FFFF20182019201C201D202220132014FFFFFFFFFFFFFFFFFFFFFFFFFFFFFFFF",
    "00A00E010E020E030E040E050E060E070E080E090E0A0E0B0E0C0E0D0E0E0E0F",
    "0E100E110E120E130E140E150E160E170E180E190E1A0E1B0E1C0E1D0E1E0E1F",
    "0E200E210E220E230E240E250E260E270E280E290E2A0E2B0E2C0E2D0E2E0E2F",
    "0E300E310E320E330E340E350E360E370E380E390E3AFFFFFFFFFFFFFFFF0E3F",
    "0E400E410E420E430E440E450E460E470E480E490E4A0E4B0E4C0E4D0E4E0E4F",
    "0E500E510E520E530E540E550E560E570E580E590E5A0E5BFFFFFFFFFFFFFFFF"]⟩,
  ⟨"hp_roman8", ["cp1051", "ibm1051", "r8", "roman8"], [
    "0080008100820083008400850086008700880089008A008B008C008D008E008F",
    "0090009100920093009400950096009700980099009A009B009C009D009E009F",
    "00A000C000C200C800CA00CB00CE00CF00B402CB02C600A802DC00D900DB20A4",
    "00AF00DD00FD00B000C700E700D100F100A100BF00A400A300A500A7019200A2",
    "00E200EA00F400FB00E100E900F300FA00E000E800F200F900E400EB00F600FC",
    "00C500EE00D800C600E500ED00F800E600C400EC00D600DC00C900EF00DF00D4",
    "00C100C300E300D000F000CD00CC00D300D200D500F50160016100DA017800FF",
    "00DE00FE00B700B500B600BE201400BC00BD00AA00BA00AB25A000BB00B1FFFF"]⟩,
  ⟨"koi8_r", ["cskoi8r"], [
    "25002502250C251025142518251C2524252C2534253C258025842588258C2590",
    "259125922593232025A02219221A22482264226500A0232100B000B200B700F7",
    "25502551255204512553255425552556255725582559255A255B255C255D255E",
    "255F25602561040125622563256425652566256725682569256A256B256C00A9",
    "044E0430043104460434043504440433044504380439043A043B043C043D043E",
    "043F044F044004410442044304360432044C044B04370448044D04490447044A",
    "042E0410041104260414041504240413042504180419041A041B041C041D041E",
    "041F042F042004210422042304160412042C042B04170428042D04290427042A"]⟩,
  ⟨"koi8_t", [], [
    "049B0493201A0492201E202620202021FFFF203004B3203904B204B704B6FFFF",
    "049A20182019201C201D202220132014FFFF2122FFFF203AFFFFFFFFFFFFFFFF",
    "FFFF04EF04EE045100A404E300A600A7FFFFFFFFFFFF00AB00AC00AD00AEFFFF",
    "00B000B100B20401FFFF04E200B600B7FFFF2116FFFF00BBFFFFFFFFFFFF00A9",
    "044E0430043104460434043504440433044504380439043A043B043C043D043E",
    "043F044F044004410442044304360432044C044B04370448044D04490447044A",
    "042E0410041104260414041504240413042504180419041A041B041C041D041E",
    "041F042F042004210422042304160412042C042B04170428042D04290427042A"]⟩,
  ⟨"koi8_u", [], [
    "25002502250C251025142518251C2524252C2534253C258025842588258C2590",
    "259125922593232025A02219221A22482264226500A0232100B000B200B700F7",
    "25502551255204510454255404560457255725582559255A255B0491255D255E",
    "255F25602561040104042563040604072566256725682569256A0490256C00A9",
    "044E0430043104460434043504440433044504380439043A043B043C043D043E",
    "043F044F044004410442044304360432044C044B04370448044D04490447044A",
    "042E0410041104260414041504240413042504180419041A041B041C041D041E",
    "041F042F042004210422042304160412042C042B04170428042D04290427042A"]⟩,
  ⟨"kz1048", ["kz_1048", "rk1048", "strk1048_2002"], [
    "04020403201A0453201E20262020202120AC203004092039040A049A04BA040F",
    "045220182019201C201D202220132014FFFF21220459203A045A049B04BB045F",
    "00A004B004B104D800A404E800A600A7040100A9049200AB00AC00AD00AE04AE",
    "00B000B10406045604E900B500B600B704512116049300BB04D904A204A304AF",
    "0410041104120413041404150416041704180419041A041B041C041D041E041F",
    "0420042104220423042404250426042704280429042A042B042C042D042E042F",
    "0430043104320433043404350436043704380439043A043B043C043D043E043F",
    "0440044104420443044404450446044704480449044A044B044C044D044E044F"]⟩,
  ⟨"palmos", [], [
    "20AC0081201A0192201E20262020202102C62030016020390152266626632665",
    "266020182019201C201D20222013201402DC21220161009B0153009D009E0178",
    "00A000A100A200A300A400A500A600A700A800A900AA00AB00AC00AD00AE00AF",
    "00B000B100B200B300B400B500B600B700B800B900BA00BB00BC00BD00BE00BF",
    "00C000C100C200C300C400C500C600C700C800C900CA00CB00CC00CD00CE00CF",
    "00D000D100D200D300D400D500D600D700D800D900DA00DB00DC00DD00DE00DF",
    "00E000E100E200E300E400E500E600E700E800E900EA00EB00EC00ED00EE00EF",
    "00F000F100F200F300F400F500F600F700F800F900FA00FB00FC00FD00FE00FF"]⟩,
  ⟨"ptcp154", ["cp154", "csptcp154", "cyrillic_asian", "pt154"], [
    "0496049204EE0493201E202604B604AE04B204AF04A004E204A2049A04BA04B8",
    "049720182019201C201D20222013201404B304B704A104E304A3049B04BB04B9",
    "00A0040E045E040804E8049804B000A7040100A904D800AB00AC04EF00AE049C",
    "00B004B104060456049904E900B600B70451211604D900BB045804AA04AB049D",
    "0410041104120413041404150416041704180419041A041B041C041D041E041F",
    "0420042104220423042404250426042704280429042A042B042C042D042E042F",
    "0430043104320433043404350436043704380439043A043B043C043D043E043F",
    "0440044104420443044404450446044704480449044A044B044C044D044E044F"]⟩]

/-- The pages of DOS. -/
def dosPages : List CodePage := [
  ⟨"cp1125", ["1125", "cp866u", "ibm1125", "ruscii"], [
    "0410041104120413041404150416041704180419041A041B041C041D041E041F",
    "0420042104220423042404250426042704280429042A042B042C042D042E042F",
    "0430043104320433043404350436043704380439043A043B043C043D043E043F",
    "259125922593250225242561256225562555256325512557255D255C255B2510",
    "25142534252C251C2500253C255E255F255A25542569256625602550256C2567",
    "2568256425652559255825522553256B256A2518250C25882584258C25902580",
    "0440044104420443044404450446044704480449044A044B044C044D044E044F",
    "040104510490049104040454040604560407045700B7221A211600A425A000A0"]⟩,
  ⟨"cp437", ["437", "cspc8codepage437", "ibm437"], [
    "00C700FC00E900E200E400E000E500E700EA00EB00E800EF00EE00EC00C400C5",
    "00C900E600C600F400F600F200FB00F900FF00D600DC00A200A300A520A70192",
    "00E100ED00F300FA00F100D100AA00BA00BF231000AC00BD00BC00A100AB00BB",
    "259125922593250225242561256225562555256325512557255D255C255B2510",
    "25142534252C251C2500253C255E255F255A25542569256625602550256C2567",
    "2568256425652559255825522553256B256A2518250C25882584258C25902580",
    "03B100DF039303C003A303C300B503C403A6039803A903B4221E03C603B52229",
    "226100B1226522642320232100F7224800B0221900B7221A207F00B225A000A0"]⟩,
  ⟨"cp720", [], [
    "0080008100E900E2008400E0008600E700EA00EB00E800EF00EE008D008E008F",
    "00900651065200F400A4064000FB00F9062106220623062400A3062506260627",
    "06280629062A062B062C062D062E062F06300631063206330634063500AB00BB",
    "259125922593250225242561256225562555256325512557255D255C255B2510",
    "25142534252C251C2500253C255E255F255A25542569256625602550256C2567",
    "2568256425652559255825522553256B256A2518250C25882584258C25902580",
    "0636063706380639063A064100B506420643064406450646064706480649064A",
    "2261064B064C064D064E064F0650224800B0221900B7221A207F00B225A000A0"]⟩,
  ⟨"cp737", [], [
    "039103920393039403950396039703980399039A039B039C039D039E039F03A0",
    "03A103A303A403A503A603A703A803A903B103B203B303B403B503B603B703B8",
    "03B903BA03BB03BC03BD03BE03BF03C003C103C303C203C403C503C603C703C8",
    "259125922593250225242561256225562555256325512557255D255C255B2510",
    "25142534252C251C2500253C255E255F255A25542569256625602550256C2567",
    "2568256425652559255825522553256B256A2518250C25882584258C25902580",
    "03C903AC03AD03AE03CA03AF03CC03CD03CB03CE038603880389038A038C038E",
    "038F00B12265226403AA03AB00F7224800B0221900B7221A207F00B225A000A0"]⟩,
  ⟨"cp775", ["775", "cspc775baltic", "ibm775"], [
    "010600FC00E9010100E4012300E501070142011301560157012B017900C400C5",
    "00C900E600C6014D00F6012200A2015A015B00D600DC00F800A300D800D700A4",
    "0100012A00F3017B017C017A201D00A600A900AE00AC00BD00BC014100AB00BB",
    "259125922593250225240104010C01180116256325512557255D012E01602510",
    "25142534252C251C2500253C0172016A255A25542569256625602550256C017D",
    "0105010D01190117012F01610173016B017E2518250C25882584258C25902580",
    "00D300DF014C014300F500D500B5014401360137013B013C0146011201452019",
    "00AD00B1201C00BE00B600A700F7201E00B0221900B700B900B300B225A000A0"]⟩,
  ⟨"cp850", ["850", "cspc850multilingual", "ibm850"], [
    "00C700FC00E900E200E400E000E500E700EA00EB00E800EF00EE00EC00C400C5",
    "00C900E600C600F400F600F200FB00F900FF00D600DC00F800A300D800D70192",
    "00E100ED00F300FA00F100D100AA00BA00BF00AE00AC00BD00BC00A100AB00BB",
    "2591259225932502252400C100C200C000A9256325512557255D00A200A52510",
    "25142534252C251C2500253C00E300C3255A25542569256625602550256C00A4",
    "00F000D000CA00CB00C8013100CD00CE00CF2518250C2588258400A600CC2580",
    "00D300DF00D400D200F500D500B500FE00DE00DA00DB00D900FD00DD00AF00B4",
    "00AD00B1201700BE00B600A700F700B800B000A800B700B900B300B225A000A0"]⟩,
  ⟨"cp852", ["852", "cspcp852", "ibm852"], [
    "00C700FC00E900E200E4016F010700E7014200EB0150015100EE017900C40106",
    "00C90139013A00F400F6013D013E015A015B00D600DC01640165014100D7010D",
    "00E100ED00F300FA01040105017D017E0118011900AC017A010C015F00AB00BB",
    "2591259225932502252400C100C2011A015E256325512557255D017B017C2510",
    "25142534252C251C2500253C01020103255A25542569256625602550256C00A4",
    "01110110010E00CB010F014700CD00CE011B2518250C258825840162016E2580",
    "00D300DF00D401430144014801600161015400DA0155017000FD00DD016300B4",
    "00AD02DD02DB02C702D800A700F700B800B000A802D901710158015925A000A0"]⟩,
  ⟨"cp855", ["855", "csibm855", "ibm855"], [
    "0452040204530403045104010454040404550405045604060457040704580408",
    "04590409045A040A045B040B045C040C045E040E045F040F044E042E044A042A",
    "0430041004310411044604260434041404350415044404240433041300AB00BB",
    "259125922593250225240445042504380418256325512557255D043904192510",
    "25142534252C251C2500253C043A041A255A25542569256625602550256C00A4",
    "043B041B043C041C043D041D043E041E043F2518250C25882584041F044F2580",
    "042F044004200441042104420422044304230436041604320412044C042C2116",
    "00AD044B042B0437041704480428044D042D044904290447042700A725A000A0"]⟩,
  ⟨"cp856", [], [
    "05D005D105D205D305D405D505D605D705D805D905DA05DB05DC05DD05DE05DF",
    "05E005E105E205E305E405E505E605E705E805E905EAFFFF00A3FFFF00D7FFFF",
    "FFFFFFFFFFFFFFFFFFFFFFFFFFFFFFFFFFFF00AE00AC00BD00BCFFFF00AB00BB",
    "25912592259325022524FFFFFFFFFFFF00A9256325512557255D00A200A52510",
    "25142534252C251C2500253CFFFFFFFF255A25542569256625602550256C00A4",
    "FFFFFFFFFFFFFFFFFFFFFFFFFFFFFFFFFFFF2518250C2588258400A6FFFF2580",
    "FFFFFFFFFFFFFFFFFFFFFFFF00B5FFFFFFFFFFFFFFFFFFFFFFFFFFFF00AF00B4",
    "00AD00B1201700BE00B600A700F700B800B000A800B700B900B300B225A000A0"]⟩,
  ⟨"cp857", ["857", "csibm857", "ibm857"], [
    "00C700FC00E900E200E400E000E500E700EA00EB00E800EF00EE013100C400C5",
    "00C900E600C600F400F600F200FB00F9013000D600DC00F800A300D8015E015F",
    "00E100ED00F300FA00F100D1011E011F00BF00AE00AC00BD00BC00A100AB00BB",
    "2591259225932502252400C100C200C000A9256325512557255D00A200A52510",
    "25142534252C251C2500253C00E300C3255A25542569256625602550256C00A4",
    "00BA00AA00CA00CB00C8FFFF00CD00CE00CF2518250C2588258400A600CC2580",
    "00D300DF00D400D200F500D500B5FFFF00D700DA00DB00D900EC00FF00AF00B4",
    "00AD00B1FFFF00BE00B600A700F700B800B000A800B700B900B300B225A000A0"]⟩,
  ⟨"cp858", ["858", "csibm858", "ibm858"], [
    "00C700FC00E900E200E400E000E500E700EA00EB00E800EF00EE00EC00C400C5",
    "00C900E600C600F400F600F200FB00F900FF00D600DC00F800A300D800D70192",
    "00E100ED00F300FA00F100D100AA00BA00BF00AE00AC00BD00BC00A100AB00BB",
    "2591259225932502252400C100C200C000A9256325512557255D00A200A52510",
    "25142534252C251C2500253C00E300C3255A25542569256625602550256C00A4",
    "00F000D000CA00CB00C820AC00CD00CE00CF2518250C2588258400A600CC2580",
    "00D300DF00D400D200F500D500B500FE00DE00DA00DB00D900FD00DD00AF00B4",
    "00AD00B1201700BE00B600A700F700B800B000A800B700B900B300B225A000A0"]⟩,
  ⟨"cp860", ["860", "csibm860", "ibm860"], [
    "00C700FC00E900E200E300E000C100E700EA00CA00E800CD00D400EC00C300C2",
    "00C900C000C800F400F500F200DA00F900CC00D500DC00A200A300D920A700D3",
    "00E100ED00F300FA00F100D100AA00BA00BF00D200AC00BD00BC00A100AB00BB",
    "259125922593250225242561256225562555256325512557255D255C255B2510",
    "25142534252C251C2500253C255E255F255A25542569256625602550256C2567",
    "2568256425652559255825522553256B256A2518250C25882584258C25902580",
    "03B100DF039303C003A303C300B503C403A6039803A903B4221E03C603B52229",
    "226100B1226522642320232100F7224800B0221900B7221A207F00B225A000A0"]⟩,
  ⟨"cp861", ["861", "cp_is", "csibm861", "ibm861"], [
    "00C700FC00E900E200E400E000E500E700EA00EB00E800D000F000DE00C400C5",
    "00C900E600C600F400F600FE00FB00DD00FD00D600DC00F800A300D820A70192",
    "00E100ED00F300FA00C100CD00D300DA00BF231000AC00BD00BC00A100AB00BB",
    "259125922593250225242561256225562555256325512557255D255C255B2510",
    "25142534252C251C2500253C255E255F255A25542569256625602550256C2567",
    "2568256425652559255825522553256B256A2518250C25882584258C25902580",
    "03B100DF039303C003A303C300B503C403A6039803A903B4221E03C603B52229",
    "226100B1226522642320232100F7224800B0221900B7221A207F00B225A000A0"]⟩,
  ⟨"cp862", ["862", "cspc862latinhebrew", "ibm862"], [
    "05D005D105D205D305D405D505D605D705D805D905DA05DB05DC05DD05DE05DF",
    "05E005E105E205E305E405E505E605E705E805E905EA00A200A300A520A70192",
    "00E100ED00F300FA00F100D100AA00BA00BF231000AC00BD00BC00A100AB00BB",
    "259125922593250225242561256225562555256325512557255D255C255B2510",
    "25142534252C251C2500253C255E255F255A25542569256625602550256C2567",
    "2568256425652559255825522553256B256A2518250C25882584258C25902580",
    "03B100DF039303C003A303C300B503C403A6039803A903B4221E03C603B52229",
    "226100B1226522642320232100F7224800B0221900B7221A207F00B225A000A0"]⟩,
  ⟨"cp863", ["863", "csibm863", "ibm863"], [
    "00C700FC00E900E200C200E000B600E700EA00EB00E800EF00EE201700C000A7",
    "00C900C800CA00F400CB00CF00FB00F900A400D400DC00A200A300D900DB0192",
    "00A600B400F300FA00A800B800B300AF00CE231000AC00BD00BC00BE00AB00BB",
    "259125922593250225242561256225562555256325512557255D255C255B2510",
    "25142534252C251C2500253C255E255F255A25542569256625602550256C2567",
    "2568256425652559255825522553256B256A2518250C25882584258C25902580",
    "03B100DF039303C003A303C300B503C403A6039803A903B4221E03C603B52229",
    "226100B1226522642320232100F7224800B0221900B7221A207F00B225A000A0"]⟩,
  ⟨"cp864", ["864", "csibm864", "ibm864"], [
    "0000000100020003000400050006000700080009000A000B000C000D000E000F",
    "0010001100120013001400150016001700180019001A001B001C001D001E001F",
    "00200021002200230024066A0026002700280029002A002B002C002D002E002F",
    "0030003100320033003400350036003700380039003A003B003C003D003E003F",
    "0040004100420043004400450046004700480049004A004B004C004D004E004F",
    "0050005100520053005400550056005700580059005A005B005C005D005E005F",
    "0060006100620063006400650066006700680069006A006B006C006D006E006F",
    "0070007100720073007400750076007700780079007A007B007C007D007E007F",
    "00B000B72219221A259225002502253C2524252C251C25342510250C25142518",
    "03B2221E03C600B100BD00BC224800AB00BBFEF7FEF8FFFFFFFFFEFBFEFCFFFF",
    "00A000ADFE8200A300A4FE84FFFFFFFFFE8EFE8FFE95FE99060CFE9DFEA1FEA5",
    "0660066106620663066406650666066706680669FED1061BFEB1FEB5FEB9061F",
    "00A2FE80FE81FE83FE85FECAFE8BFE8DFE91FE93FE97FE9BFE9FFEA3FEA7FEA9",
    "FEABFEADFEAFFEB3FEB7FEBBFEBFFEC1FEC5FECBFECF00A600AC00F700D7FEC9",
    "0640FED3FED7FEDBFEDFFEE3FEE7FEEBFEEDFEEFFEF3FEBDFECCFECEFECDFEE1",
    "FE7D0651FEE5FEE9FEECFEF0FEF2FED0FED5FEF5FEF6FEDDFED9FEF125A0FFFF"]⟩,
  ⟨"cp865", ["865", "csibm865", "ibm865"], [
    "00C700FC00E900E200E400E000E500E700EA00EB00E800EF00EE00EC00C400C5",
    "00C900E600C600F400F600F200FB00F900FF00D600DC00F800A300D820A70192",
    "00E100ED00F300FA00F100D100AA00BA00BF231000AC00BD00BC00A100AB00A4",
    "259125922593250225242561256225562555256325512557255D255C255B2510",
    "25142534252C251C2500253C255E255F255A25542569256625602550256C2567",
    "2568256425652559255825522553256B256A2518250C25882584258C25902580",
    "03B100DF039303C003A303C300B503C403A6039803A903B4221E03C603B52229",
    "226100B1226522642320232100F7224800B0221900B7221A207F00B225A000A0"]⟩,
  ⟨"cp866", ["866", "csibm866", "ibm866"], [
    "0410041104120413041404150416041704180419041A041B041C041D041E041F",
    "0420042104220423042404250426042704280429042A042B042C042D042E042F",
    "0430043104320433043404350436043704380439043A043B043C043D043E043F",
    "259125922593250225242561256225562555256325512557255D255C255B2510",
    "25142534252C251C2500253C255E255F255A25542569256625602550256C2567",
    "2568256425652559255825522553256B256A2518250C25882584258C25902580",
    "0440044104420443044404450446044704480449044A044B044C044D044E044F",
    "040104510404045404070457040E045E00B0221900B7221A211600A425A000A0"]⟩,
  ⟨"cp869", ["869", "cp_gr", "csibm869", "ibm869"], [
    "FFFFFFFFFFFFFFFFFFFFFFFF0386FFFF00B700AC00A620182019038820150389",
    "038A03AA038CFFFFFFFF038E03AB00A9038F00B200B303AC00A303AD03AE03AF",
    "03CA039003CC03CD039103920393039403950396039700BD0398039900AB00BB",
    "25912592259325022524039A039B039C039D256325512557255D039E039F2510",
    "25142534252C251C2500253C03A003A1255A25542569256625602550256C03A3",
    "03A403A503A603A703A803A903B103B203B32518250C2588258403B403B52580",
    "03B603B703B803B903BA03BB03BC03BD03BE03BF03C003C103C303C203C40384",
    "00AD00B103C503C603C700A703C8038500B000A803C903CB03B003CE25A000A0"]⟩]

/-- The pages of the first Macintosh systems. -/
def macPages : List CodePage := [
  ⟨"mac_arabic", [], [
    "0000000100020003000400050006000700080009000A000B000C000D000E000F",
    "0010001100120013001400150016001700180019001A001B001C001D001E001F",
    "FFFFFFFFFFFFFFFFFFFF0025FFFFFFFFFFFFFFFFFFFFFFFF002CFFFFFFFFFFFF",
    "0030003100320033003400350036003700380039FFFF003BFFFFFFFFFFFF003F",
    "0040004100420043004400450046004700480049004A004B004C004D004E004F",
    "0050005100520053005400550056005700580059005AFFFFFFFFFFFFFFFFFFFF",
    "0060006100620063006400650066006700680069006A006B006C006D006E006F",
    "0070007100720073007400750076007700780079007AFFFFFFFFFFFF007E007F",
    "00C400A000C700C900D100D600DC00E100E000E200E406BA00AB00E700E900E8",
    "00EA00EB00ED202600EE00EF00F100F300BB00F400F600F700FA00F900FB00FC",
    "00200021002200230024066A0026002700280029002A002B060C002D002E002F",
    "0660066106620663066406650666066706680669003A061B003C003D003E061F",
    "274A062106220623062406250626062706280629062A062B062C062D062E062F",
    "0630063106320633063406350636063706380639063A005B005C005D005E005F",
    "0640064106420643064406450646064706480649064A064B064C064D064E064F",
    "065006510652067E0679068606D506A406AF06880691007B007C007D069806D2"]⟩,
  ⟨"mac_croatian", [], [
    "00C400C500C700C900D100D600DC00E100E000E200E400E300E500E700E900E8",
    "00EA00EB00ED00EC00EE00EF00F100F300F200F400F600F500FA00F900FB00FC",
    "202000B000A200A300A7202200B600DF00AE0160212200B400A82260017D00D8",
    "221E00B122642265220600B522022211220F0161222B00AA00BA03A9017E00F8",
    "00BF00A100AC221A01922248010600AB010C202600A000C000C300D501520153",
    "01102014201C201D2018201900F725CAF8FF00A9204420AC2039203A00C600BB",
    "201300B7201A201E203000C2010700C1010D00C800CD00CE00CF00CC00D300D4",
    "011100D200DA00DB00D9013102C602DC00AF03C000CB02DA00B800CA00E602C7"]⟩,
  ⟨"mac_cyrillic", ["maccyrillic"], [
    "0410041104120413041404150416041704180419041A041B041C041D041E041F",
    "0420042104220423042404250426042704280429042A042B042C042D042E042F",
    "202000B0049000A300A7202200B6040600AE00A9212204020452226004030453",
    "221E00B122642265045600B504910408040404540407045704090459040A045A",
    "0458040500AC221A01922248220600AB00BB202600A0040B045B040C045C0455",
    "20132014201C201D2018201900F7201E040E045E040F045F211604010451044F",
    "0430043104320433043404350436043704380439043A043B043C043D043E043F",
    "0440044104420443044404450446044704480449044A044B044C044D044E20AC"]⟩,
  ⟨"mac_farsi", [], [
    "0000000100020003000400050006000700080009000A000B000C000D000E000F",
    "0010001100120013001400150016001700180019001A001B001C001D001E001F",
    "FFFFFFFFFFFFFFFFFFFF0025FFFFFFFFFFFFFFFFFFFFFFFF002CFFFFFFFFFFFF",
    "0030003100320033003400350036003700380039FFFF003BFFFFFFFFFFFF003F",
    "0040004100420043004400450046004700480049004A004B004C004D004E004F",
    "0050005100520053005400550056005700580059005AFFFFFFFFFFFFFFFFFFFF",
    "0060006100620063006400650066006700680069006A006B006C006D006E006F",
    "0070007100720073007400750076007700780079007AFFFFFFFFFFFF007E007F",
    "00C400A000C700C900D100D600DC00E100E000E200E406BA00AB00E700E900E8",
    "00EA00EB00ED202600EE00EF00F100F300BB00F400F600F700FA00F900FB00FC",
    "00200021002200230024066A0026002700280029002A002B060C002D002E002F",
    "06F006F106F206F306F406F506F606F706F806F9003A061B003C003D003E061F",
    "274A062106220623062406250626062706280629062A062B062C062D062E062F",
    "0630063106320633063406350636063706380639063A005B005C005D005E005F",
    "0640064106420643064406450646064706480649064A064B064C064D064E064F",
    "065006510652067E0679068606D506A406AF06880691007B007C007D069806D2"]⟩,
  ⟨"mac_greek", ["macgreek"], [
    "00C400B900B200C900B300D600DC038500E000E200E4038400A800E700E900E8",
    "00EA00EB00A3212200EE00EF202200BD203000F400F600A620AC00F900FB00FC",
    "2020039303940398039B039E03A000DF00AE00A903A303AA00A7226000B000B7",
    "039100B12264226500A503920395039603970399039A039C03A603AB03A803A9",
    "03AC039D00AC039F03A1224803A400AB00BB202600A003A503A7038603880153",
    "20132015201C201D2018201900F70389038A038C038E03AD03AE03AF03CC038F",
    "03CD03B103B203C803B403B503C603B303B703B903BE03BA03BB03BC03BD03BF",
    "03C003CE03C103C303C403B803C903C203C703C503B603CA03CB039003B000AD"]⟩,
  ⟨"mac_iceland", ["maciceland"], [
    "00C400C500C700C900D100D600DC00E100E000E200E400E300E500E700E900E8",
    "00EA00EB00ED00EC00EE00EF00F100F300F200F400F600F500FA00F900FB00FC",
    "00DD00B000A200A300A7202200B600DF00AE00A9212200B400A8226000C600D8",
    "221E00B12264226500A500B522022211220F03C0222B00AA00BA03A900E600F8",
    "00BF00A100AC221A01922248220600AB00BB202600A000C000C300D501520153",
    "20132014201C201D2018201900F725CA00FF0178204420AC00D000F000DE00FE",
    "00FD00B7201A201E203000C200CA00C100CB00C800CD00CE00CF00CC00D300D4",
    "F8FF00D200DA00DB00D9013102C602DC00AF02D802D902DA00B802DD02DB02C7"]⟩,
  ⟨"mac_latin2", ["mac_centeuro", "maccentraleurope", "maclatin2"], [
    "00C40100010100C9010400D600DC00E10105010C00E4010D0106010700E90179",
    "017A010E00ED010F01120113011600F3011700F400F600F500FA011A011B00FC",
    "202000B0011800A300A7202200B600DF00AE00A92122011900A822600123012E",
    "012F012A22642265012B0136220222110142013B013C013D013E0139013A0145",
    "0146014300AC221A01440147220600AB00BB202600A00148015000D50151014C",
    "20132014201C201D2018201900F725CA014D0154015501582039203A01590156",
    "01570160201A201E0161015A015B00C10164016500CD017D017E016A00D300D4",
    "016B016E00DA016F017001710172017300DD00FD0137017B0141017C012202C7"]⟩,
  ⟨"mac_roman", ["macintosh", "macroman"], [
    "00C400C500C700C900D100D600DC00E100E000E200E400E300E500E700E900E8",
    "00EA00EB00ED00EC00EE00EF00F100F300F200F400F600F500FA00F900FB00FC",
    "202000B000A200A300A7202200B600DF00AE00A9212200B400A8226000C600D8",
    "221E00B12264226500A500B522022211220F03C0222B00AA00BA03A900E600F8",
    "00BF00A100AC221A01922248220600AB00BB202600A000C000C300D501520153",
    "20132014201C201D2018201900F725CA00FF0178204420AC2039203AFB01FB02",
    "202100B7201A201E203000C200CA00C100CB00C800CD00CE00CF00CC00D300D4",
    "F8FF00D200DA00DB00D9013102C602DC00AF02D802D902DA00B802DD02DB02C7"]⟩,
  ⟨"mac_romanian", [], [
    "00C400C500C700C900D100D600DC00E100E000E200E400E300E500E700E900E8",
    "00EA00EB00ED00EC00EE00EF00F100F300F200F400F600F500FA00F900FB00FC",
    "202000B000A200A300A7202200B600DF00AE00A9212200B400A8226001020218",
    "221E00B12264226500A500B522022211220F03C0222B00AA00BA03A901030219",
    "00BF00A100AC221A01922248220600AB00BB202600A000C000C300D501520153",
    "20132014201C201D2018201900F725CA00FF0178204420AC2039203A021A021B",
    "202100B7201A201E203000C200CA00C100CB00C800CD00CE00CF00CC00D300D4",
    "F8FF00D200DA00DB00D9013102C602DC00AF02D802D902DA00B802DD02DB02C7"]⟩,
  ⟨"mac_turkish", ["macturkish"], [
    "00C400C500C700C900D100D600DC00E100E000E200E400E300E500E700E900E8",
    "00EA00EB00ED00EC00EE00EF00F100F300F200F400F600F500FA00F900FB00FC",
    "202000B000A200A300A7202200B600DF00AE00A9212200B400A8226000C600D8",
    "221E00B12264226500A500B522022211220F03C0222B00AA00BA03A900E600F8",
    "00BF00A100AC221A01922248220600AB00BB202600A000C000C300D501520153",
    "20132014201C201D2018201900F725CA00FF0178011E011F01300131015E015F",
    "202100B7201A201E203000C200CA00C100CB00C800CD00CE00CF00CC00D300D4",
    "F8FF00D200DA00DB00D9F8A002C602DC00AF02D802D902DA00B802DD02DB02C7"]⟩]

/-- The pages that do not have ASCII in their lower half. -/
def ebcdicPages : List CodePage := [
  ⟨"cp037",
   ["037", "csibm037", "ebcdic_cp_ca", "ebcdic_cp_nl", "ebcdic_cp_us", "ebcdic_cp_wt", "ibm037",
    "ibm039"], [
    "0000000100020003009C00090086007F0097008D008E000B000C000D000E000F",
    "0010001100120013009D008500080087001800190092008F001C001D001E001F",
    "00800081008200830084000A0017001B00880089008A008B008C000500060007",
    "0090009100160093009400950096000400980099009A009B00140015009E001A",
    "002000A000E200E400E000E100E300E500E700F100A2002E003C0028002B007C",
    "002600E900EA00EB00E800ED00EE00EF00EC00DF00210024002A0029003B00AC",
    "002D002F00C200C400C000C100C300C500C700D100A6002C0025005F003E003F",
    "00F800C900CA00CB00C800CD00CE00CF00CC0060003A002300400027003D0022",
    "00D800610062006300640065006600670068006900AB00BB00F000FD00FE00B1",
    "00B0006A006B006C006D006E006F00700071007200AA00BA00E600B800C600A4",
    "00B5007E0073007400750076007700780079007A00A100BF00D000DD00DE00AE",
    "005E00A300A500B700A900A700B600BC00BD00BE005B005D00AF00A800B400D7",
    "007B00410042004300440045004600470048004900AD00F400F600F200F300F5",
    "007D004A004B004C004D004E004F00500051005200B900FB00FC00F900FA00FF",
    "005C00F70053005400550056005700580059005A00B200D400D600D200D300D5",
    "003000310032003300340035003600370038003900B300DB00DC00D900DA009F"]⟩,
  ⟨"cp1026", ["1026", "csibm1026", "ibm1026"], [
    "0000000100020003009C00090086007F0097008D008E000B000C000D000E000F",
    "0010001100120013009D008500080087001800190092008F001C001D001E001F",
    "00800081008200830084000A0017001B00880089008A008B008C000500060007",
    "0090009100160093009400950096000400980099009A009B00140015009E001A",
    "002000A000E200E400E000E100E300E5007B00F100C7002E003C0028002B0021",
    "002600E900EA00EB00E800ED00EE00EF00EC00DF011E0130002A0029003B005E",
    "002D002F00C200C400C000C100C300C5005B00D1015F002C0025005F003E003F",
    "00F800C900CA00CB00C800CD00CE00CF00CC0131003A00D6015E0027003D00DC",
    "00D800610062006300640065006600670068006900AB00BB007D006000A600B1",
    "00B0006A006B006C006D006E006F00700071007200AA00BA00E600B800C600A4",
    "00B500F60073007400750076007700780079007A00A100BF005D0024004000AE",
    "00A200A300A500B700A900A700B600BC00BD00BE00AC007C00AF00A800B400D7",
    "00E700410042004300440045004600470048004900AD00F4007E00F200F300F5",
    "011F004A004B004C004D004E004F00500051005200B900FB005C00F900FA00FF",
    "00FC00F70053005400550056005700580059005A00B200D4002300D200D300D5",
    "003000310032003300340035003600370038003900B300DB002200D900DA009F"]⟩,
  ⟨"cp1140", ["1140", "ibm1140"], [
    "0000000100020003009C00090086007F0097008D008E000B000C000D000E000F",
    "0010001100120013009D008500080087001800190092008F001C001D001E001F",
    "00800081008200830084000A0017001B00880089008A008B008C000500060007",
    "0090009100160093009400950096000400980099009A009B00140015009E001A",
    "002000A000E200E400E000E100E300E500E700F100A2002E003C0028002B007C",
    "002600E900EA00EB00E800ED00EE00EF00EC00DF00210024002A0029003B00AC",
    "002D002F00C200C400C000C100C300C500C700D100A6002C0025005F003E003F",
    "00F800C900CA00CB00C800CD00CE00CF00CC0060003A002300400027003D0022",
    "00D800610062006300640065006600670068006900AB00BB00F000FD00FE00B1",
    "00B0006A006B006C006D006E006F00700071007200AA00BA00E600B800C620AC",
    "00B5007E0073007400750076007700780079007A00A100BF00D000DD00DE00AE",
    "005E00A300A500B700A900A700B600BC00BD00BE005B005D00AF00A800B400D7",
    "007B00410042004300440045004600470048004900AD00F400F600F200F300F5",
    "007D004A004B004C004D004E004F00500051005200B900FB00FC00F900FA00FF",
    "005C00F70053005400550056005700580059005A00B200D400D600D200D300D5",
    "003000310032003300340035003600370038003900B300DB00DC00D900DA009F"]⟩,
  ⟨"cp273", ["273", "csibm273", "ibm273"], [
    "0000000100020003009C00090086007F0097008D008E000B000C000D000E000F",
    "0010001100120013009D008500080087001800190092008F001C001D001E001F",
    "00800081008200830084000A0017001B00880089008A008B008C000500060007",
    "0090009100160093009400950096000400980099009A009B00140015009E001A",
    "002000A000E2007B00E000E100E300E500E700F100C4002E003C0028002B0021",
    "002600E900EA00EB00E800ED00EE00EF00EC007E00DC0024002A0029003B005E",
    "002D002F00C2005B00C000C100C300C500C700D100F6002C0025005F003E003F",
    "00F800C900CA00CB00C800CD00CE00CF00CC0060003A002300A70027003D0022",
    "00D800610062006300640065006600670068006900AB00BB00F000FD00FE00B1",
    "00B0006A006B006C006D006E006F00700071007200AA00BA00E600B800C600A4",
    "00B500DF0073007400750076007700780079007A00A100BF00D000DD00DE00AE",
    "00A200A300A500B700A9004000B600BC00BD00BE00AC007C203E00A800B400D7",
    "00E400410042004300440045004600470048004900AD00F400A600F200F300F5",
    "00FC004A004B004C004D004E004F00500051005200B900FB007D00F900FA00FF",
    "00D600F70053005400550056005700580059005A00B200D4005C00D200D300D5",
    "003000310032003300340035003600370038003900B300DB005D00D900DA009F"]⟩,
  ⟨"cp424", ["424", "csibm424", "ebcdic_cp_he", "ibm424"], [
    "0000000100020003009C00090086007F0097008D008E000B000C000D000E000F",
    "0010001100120013009D008500080087001800190092008F001C001D001E001F",
    "00800081008200830084000A0017001B00880089008A008B008C000500060007",
    "0090009100160093009400950096000400980099009A009B00140015009E001A",
    "002005D005D105D205D305D405D505D605D705D800A2002E003C0028002B007C",
    "002605D905DA05DB05DC05DD05DE05DF05E005E100210024002A0029003B00AC",
    "002D002F05E205E305E405E505E605E705E805E900A6002C0025005F003E003F",
    "FFFF05EAFFFFFFFF00A0FFFFFFFFFFFF20170060003A002300400027003D0022",
    "FFFF00610062006300640065006600670068006900AB00BBFFFFFFFFFFFF00B1",
    "00B0006A006B006C006D006E006F007000710072FFFFFFFFFFFF00B8FFFF00A4",
    "00B5007E0073007400750076007700780079007AFFFFFFFFFFFFFFFFFFFF00AE",
    "005E00A300A500B700A900A700B600BC00BD00BE005B005D00AF00A800B400D7",
    "007B00410042004300440045004600470048004900ADFFFFFFFFFFFFFFFFFFFF",
    "007D004A004B004C004D004E004F00500051005200B9FFFFFFFFFFFFFFFFFFFF",
    "005C00F70053005400550056005700580059005A00B2FFFFFFFFFFFFFFFFFFFF",
    "003000310032003300340035003600370038003900B3FFFFFFFFFFFFFFFF009F"]⟩,
  ⟨"cp500", ["500", "csibm500", "ebcdic_cp_be", "ebcdic_cp_ch", "ibm500"], [
    "0000000100020003009C00090086007F0097008D008E000B000C000D000E000F",
    "0010001100120013009D008500080087001800190092008F001C001D001E001F",
    "00800081008200830084000A0017001B00880089008A008B008C000500060007",
    "0090009100160093009400950096000400980099009A009B00140015009E001A",
    "002000A000E200E400E000E100E300E500E700F1005B002E003C0028002B0021",
    "002600E900EA00EB00E800ED00EE00EF00EC00DF005D0024002A0029003B005E",
    "002D002F00C200C400C000C100C300C500C700D100A6002C0025005F003E003F",
    "00F800C900CA00CB00C800CD00CE00CF00CC0060003A002300400027003D0022",
    "00D800610062006300640065006600670068006900AB00BB00F000FD00FE00B1",
    "00B0006A006B006C006D006E006F00700071007200AA00BA00E600B800C600A4",
    "00B5007E0073007400750076007700780079007A00A100BF00D000DD00DE00AE",
    "00A200A300A500B700A900A700B600BC00BD00BE00AC007C00AF00A800B400D7",
    "007B00410042004300440045004600470048004900AD00F400F600F200F300F5",
    "007D004A004B004C004D004E004F00500051005200B900FB00FC00F900FA00FF",
    "005C00F70053005400550056005700580059005A00B200D400D600D200D300D5",
    "003000310032003300340035003600370038003900B300DB00DC00D900DA009F"]⟩,
  ⟨"cp875", [], [
    "0000000100020003009C00090086007F0097008D008E000B000C000D000E000F",
    "0010001100120013009D008500080087001800190092008F001C001D001E001F",
    "00800081008200830084000A0017001B00880089008A008B008C000500060007",
    "0090009100160093009400950096000400980099009A009B00140015009EFFFF",
    "0020039103920393039403950396039703980399005B002E003C0028002B0021",
    "0026039A039B039C039D039E039F03A003A103A3005D0024002A0029003B005E",
    "002D002F03A403A503A603A703A803A903AA03AB007C002C0025005F003E003F",
    "00A803860388038900A0038A038C038E038F0060003A002300400027003D0022",
    "038500610062006300640065006600670068006903B103B203B303B403B503B6",
    "00B0006A006B006C006D006E006F00700071007203B703B803B903BA03BB03BC",
    "00B4007E0073007400750076007700780079007A03BD03BE03BF03C003C103C3",
    "00A303AC03AD03AE03CA03AF03CC03CD03CB03CE03C203C403C503C603C703C8",
    "007B00410042004300440045004600470048004900AD03C9039003B020182015",
    "007D004A004B004C004D004E004F00500051005200B100BDFFFF0387201900A6",
    "005CFFFF0053005400550056005700580059005A00B200A7FFFFFFFF00AB00AC",
    "003000310032003300340035003600370038003900B300A9FFFF001A00BB009F"]⟩]

/-- All code pages. -/
def CodePage.all : List CodePage := isoPages ++ windowsPages ++ dosPages ++ macPages ++ ebcdicPages

end Postprocessor.Text
