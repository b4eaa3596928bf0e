/-!
# Ages of characters: the table

The age of a code point is the version of the character set that first assigned it.

* `ageVersions` — the versions, oldest first, with the mark that stands for each.
* `ageRuns` — all code points in order, as runs of one age each: the mark and, unless it is a single
  code point, the number of code points. `Zz` stands for none.
-/

set_option autoImplicit false

namespace DocQuery

/-- The mark of a version, its major and its minor number. -/
def ageVersions : List (String × Nat × Nat) := [
  ("A", 1, 1), ("B", 2, 0), ("C", 2, 1), ("D", 3, 0), ("E", 3, 1), ("F", 3, 2), ("G", 4, 0),
  ("H", 4, 1), ("I", 5, 0), ("J", 5, 1), ("K", 5, 2), ("L", 6, 0), ("M", 6, 1), ("N", 6, 2),
  ("O", 6, 3), ("P", 7, 0), ("Q", 8, 0), ("R", 9, 0), ("S", 10, 0), ("T", 11, 0), ("U", 12, 0),
  ("V", 12, 1), ("W", 13, 0), ("X", 14, 0), ("Y", 15, 0), ("Z", 15, 1), ("Za", 16, 0)]

/-- The runs, in order, from code point zero to the last. -/
def ageRuns : List String := [
  "A502D4A30D8FGD18G3H11I14A89D5G2A47DA10D5G17A70D9FG8H5G3A2DF13J4A2J2Zz2AI3APZz4A7ZzAZzA20ZzA44J",
  "A7DF2ADADADADA18E2FG5H4DA12DA66DA12DA41JD2F2D4A53F2A2F2A2F2IA28D2A8H2A2I6F16I4J16K2L2P8ZzA38",
  "Zz2A7TA39TADZz2P2MZzB17HB13A10IA9BH3Zz8A27Zz4TA5Zz11G4MPJ5HAG9J5AOXHALA26J5A19D3G3H6LA14F2A72",
  "D2A5DA15DA30G2A10D5GD14ZzD30G3D27Zz2G3H30J18D49FZz14I59Zz2T3K46Zz2K15ZzL28Zz2LZzS11Zz5X31ZzX2",
  "Zz5ZaX8MPM11P6Q2XR8W10X11TR15QM27PKA3GA53L2A18KLA5KL2A25J2L5PK2I2HI2PA3ZzA8Zz2A2Zz2A22ZzA7ZzA",
  "Zz3A4Zz2AGA7Zz2A2Zz2A3HZz8AZz4A2ZzA5Zz2A21KS2TZz2GAGZzA6Zz4A2Zz2A22ZzA7ZzA2ZzA2ZzA2Zz2AZzA5Zz4",
  "A2Zz2A3Zz3JZz7A4ZzAZz7A15JTZz10A3ZzA7GAZzA3ZzA22ZzA7ZzA2ZzA5Zz2A10ZzA3ZzA3Zz2AZz15AG3Zz2A10MG",
  "Zz7QS6ZzA3ZzA8Zz2A2Zz2A22ZzA7ZzA2ZzGA4Zz2A8JZz2A2Zz2A3Zz7WA2Zz4A2ZzA3J2Zz2A11GL6Zz10A2ZzA6Zz3",
  "A3ZzA4Zz3A2ZzAZzA2Zz3A2Zz3A3Zz3A8HA3Zz4A5Zz3A3ZzA4Zz2JZz6AZz14HA12G8Zz5PA3TA8ZzA3ZzA23ZzA10PA5",
  "Zz2XJA7ZzA3ZzA4Zz7A2ZzJ2QZz2XZz2A2J2Zz2A10Zz7UJ8RPA2TA8ZzA3ZzA23ZzA10ZzA5Zz2G2A7ZzA3ZzA4Zz7A2",
  "Zz6XAZzA2I2Zz2A10ZzI2YZz12SPA2WA8ZzA3ZzA23LA16LS2JA6JZzA3ZzA4LRZz4R3AR7QA2J2Zz2A10J6R3J7ZzWD2",
  "ZzD18Zz3D24ZzD9ZzDZz2D7Zz3DZz4D6ZzDZzD8Zz6P10Zz2D3Zz12A58Zz4A29Zz37A2ZzAZzUA2UAZzUAU6A4UA7UA3",
  "ZzAZzAU2A2UA13UA3Zz2A5ZzAZzA6YZzA10Zz2A2M2Zz32B72ZzB33DJ2Zz4B27L4B6DBZzB21D3B7DBD3ZzD15ZzJDH2",
  "J3K4L2Zz37D34JD5JD2JD7J3D4J6D26J64K4J2A38ZzMZz5MZz2A39F2H2AHM3A90K5A68K5A82K6D7HD63HDZzD4Zz2D7",
  "ZzDZzD4Zz2D39HDZzD4Zz2D31HDZzD4Zz2D7ZzDZzD4Zz2D7HD7ZzD23HD31HDZzD4Zz2D7HD39HD19Zz2L2H2D28Zz3",
  "H26Zz6D85QZz2Q6Zz2KD630K9D29Zz3D81P8Zz7F13XF7XZz9XF23Zz9F20Zz12F13ZzF3ZzF2Zz12D93GZz2D10Zz6G10",
  "Zz6D15XD10Zz6D88TZz7D42JZz5K70Zz10G29P2ZzG12Zz4G12Zz4GZz3G42Zz2G5Zz11H42K2Zz4H26Zz6H10KZz3H2",
  "G32H28Zz2H2K63ZzK29Zz2K11Zz6K10Zz6K14Zz2P15W2X14Zz49I76XZzZa2I45X2ZaJ43M3J12M6L52Zz8L4J56Zz3",
  "J15Zz3J51R9Za2Zz5T43Zz2T3M8Zz8K35M4SP2UZz5G108H88I7J28P15S4XRLKI2A155BJ4A90J6A22Zz2A6Zz2A38Zz2",
  "A6Zz2A8ZzAZzAZzAZzA31Zz2A53ZzA15ZzA14Zz2A6ZzA19Zz2A3ZzA9ZzA47DA23FD6F5G2H2FH7F5JZzO4A7FZz2A27",
  "ZzH5L8Zz3A11BCD3F2H4K3LNP3QSXZz15A18D2F7HI4JZz15A57D2GHF15HI2JK3A48DIJ4KQ2Zz4A91D9F12A242F14AD",
  "A121DFD30F52G2H11I12KL11P7R4SA37D2Za3Zz22A11Zz21A139F20GA150F10A80D8F8A20G2F2HDA86D2F12H2F10G8",
  "H11JK2G2H16IJ10K3J4K10LK19LKL4K24PA4LA4L2A28LA35LALA4L3AKA7L2A7F14A31L3A24LA14LH7I4MJML2F28J4",
  "F16D256F512G14H6I7J5I4J41P3J5K5P26Zz2P32ZzWP34T3P12UP8ST25Q4T15UH47XH47XI13J3KJ3I4J6K2H107K7M2",
  "Zz5H45ZzMZz5MZz2H54M2Zz7HLZz14LH23Zz9H7ZzH7ZzH7ZzH7ZzH7ZzH7ZzH7ZzH7ZzJ32H24J4H2J19KM10P7R2S5T5",
  "UW3X11Zz34D26ZzD89Zz12D214Zz26D12Z4A56D3F3DAZzA84F2Zz2A6F2A94FZz5A40JSTZzA94ZzA16D24L3W5H16J20",
  "Za2Zz9ZF16A29G2ZzA36K12GF15A28G2HA50F15A12G4A47VA119G4A99G2A31GD6582W10G64A20902H22J8K8MQ9S21",
  "T5W13X3D1165Zz3D18F2D16FD12FD3FDZz9K48J300Zz20J32L2J18M8J28P6QMK88Zz8H23I4J5I2J107L2QL2M2P12",
  "L10MP3RTP2Q6T2U6X2U5W4Za3Zz2X2ZzXZzX5Za3Zz21X3W2PM2LJ5H44WZz3K10Zz6I56Zz8J69RZz8J12Zz6K28Q2T2",
  "J84Zz11JK29Zz3K78ZzK11Zz4K2P31ZzJ55Zz9J14Zz2J10Zz2J4K28P4K67Zz24K5M23Zz10L6Zz2L6Zz2L6Zz9L7ZzL7",
  "ZzP48Q4P2U2W4Zz4Q80K46Zz2K10Zz6B11172Zz12K23Zz4K49Zz4B2048A6702M2F59K3Zz2H106Zz38A7Zz12A5Zz5D",
  "A25ZzA5ZzAZzA2ZzA2ZzA108L16XZz16A365X16A64Zz2A54Zz7XE32A12FGX2F16H10Zz6A4J3P7Q2A21F2G2A10ZzA19",
  "ZzA4Zz4A3FAZzA135Zz2AZzA94F2A94Zz3A6Zz2A6Zz2A6Zz2A3Zz3A7ZzA7Zz10D3CA3G12ZzG26ZzG19ZzG2ZzG15Zz2",
  "G14Zz34G123Zz5G3Zz4G45Zz3G9H75P2R2ZzJ12WZz3PZz47J46Zz130J29Zz3J49Zz15P28Zz4E31PE4Zz9S3E27Zz5",
  "P43Zz5G30ZzGH36Zz4H14Zz42E38G2E38G80Zz2G10Zz6R36Zz4R36Zz4P40Zz8P52Zz11PX11ZzX15ZzX7ZzX2ZzX11Zz",
  "X15ZzX7ZzX2Zz3Za52Zz12P311Zz9P22Zz10P8Zz24X6ZzX42ZzX9Zz69G6Zz2GZzG44ZzG2Zz3GZz2GK22ZzK9P63Zz8",
  "P9Zz48Q19ZzQ2Zz5Q5I26K2Zz3IJ26Zz5JZz64M56Zz4Q2M2Q16Zz2Q46H4ZzH2Zz5H8ZzH3ZzH27T2Zz2H3Zz4H9TZz7",
  "H9Zz7K32P32Zz32P39Zz4P12Zz9K54Zz3K29Zz2K27Zz5K8P18Zz7P4Zz12P7Zz80K73Zz55Q51Zz13Q51Zz7Q6T40Zz8",
  "T10Zz6Za38Zz3Za29Zz8Za2Zz208K31ZzW42ZzW3Zz2W2Zz16Za3Zz55ZaY3T40Zz8T42Zz22X26Zz38W28Zz20U23Zz9",
  "L78Zz4L30X6Zz9PK66XZz10TZz2M25Zz7M10Zz6M53ZzM14T3WZz8P39Zz9M73Q4PW2M10PQ5ZzP20Zz11P18ZzP43RY3",
  "Zz62Q7ZzQZzQ4ZzQ15ZzQ11Zz6P59Zz5P10Zz6QP3ZzP8Zz2P2Zz2P22ZzP7ZzP2ZzP5ZzTP9Zz2P2Zz2P3Zz2QZz6PZz5",
  "P7Zz2P7Zz3P5Zz11Za10ZzZaZz2ZaZzZa38ZzZa10ZzZaZz2ZaZzZa4ZzZa10ZzZa2Zz8Za2Zz29R90WRZzRTUW2Zz30",
  "P72Zz8P10Zz166P54Zz2P18Q20Zz34P69Zz11P10Zz6R13Zz19M56UXZz6M10Zz6Za20Zz28Q26TZz2Q15Zz4Q16X7",
  "Zz185T60Zz100P83Zz12PW7Zz2WZz2W8ZzW2ZzW30ZzW2Zz2W12Zz9W10Zz70U8Zz2U46Zz2U11Zz27S72Zz8S52U2S23T",
  "S5Zz13X16P57Zz7Y10Zz182Za34Zz14Za10Zz6R9ZzR45ZzR14Zz10R29Zz3R32Zz2R22ZzR14Zz73S7ZzS2ZzS44Zz3S",
  "ZzS2ZzS9Zz8S10Zz6T6ZzT2ZzT37ZzT2ZzT6Zz7T10Zz310T25Zz7Y17ZzY41Zz3Y28ZaZz85WZz15U50Zz13UI879P42Q",
  "Zz102I99P12ZzI4PZz11Q196Zz2636X99Zz13K1071YU9Y29Zz10Za3995Zz5Q583Zz6841Za58Zz1734L569Zz7P31Zz",
  "P10Zz4P2X79ZzX10Zz6P30Zz2P6Zz10P70Zz10P10ZzP7ZzP21Zz5P19Zz432Za58Zz198T91Zz101M69U6Zz4UM47U9",
  "Zz7M17Zz64RSU2WZz11W2Zz14R6125T5U6Zz8R755W483Zz41ZaW9Zz8935X4ZzX7ZzX2ZzL2S285X4Zz15YZz29U3Zz2Y",
  "Zz14U4Zz8S396Zz2308P107Zz5P13Zz3P9Zz7P10Zz2P8Zz3932Za250Zz6Za436Zz76X46Zz2X23Zz9X116Zz60E246",
  "Zz10E39Zz2JE180Q11X2Zz21H70Zz122Y20Zz12T20Zz12G87Zz9I18T7Zz135E85ZzE71ZzE2Zz2EZz2E2Zz2E4ZzE12",
  "ZzEZzE4GE2ZzE65ZzE4Zz2E8ZzE7ZzE28ZzE4ZzE5ZzEZz3E7ZzE338H2Zz2E290I2Zz2E50Q652Zz15Q5ZzQ15Zz1104",
  "X31Zz6Y6Zz213R7ZzR17Zz2R7ZzR2ZzR5Zz5Y62Zz33YZz112U45Zz3U14Zz2U10Zz4U2Zz320X31Zz17U58Zz5UZz464",
  "Y42Zz214Za43Zz4ZaZz480X7ZzX4ZzX2ZzX15ZzP197Zz2P16Zz41R75UZz4R10Zz4R2Zz785T68Zz76U61Zz194M4Zz",
  "M27ZzM2ZzMZz2MZzM10ZzM4ZzMZzMZz6MZz4MZzMZzMZzM3ZzM2ZzMZz2MZzMZzMZzMZzMZzM2ZzMZz2M4ZzM7ZzM4ZzM4",
  "ZzMZzM10ZzM17Zz5M3ZzM5ZzM17Zz52M2Zz270J44Zz4J100Zz12L15Zz2L14PZzL15ZzL15P22Zz10K11P2W3K31TLK",
  "L11KLKL2KL3KL3K5L8KL7KL10M2UW3L9KLK2L2KL10K4L2KL10R18WZz56L26KL2Zz13K34L9RZz4K9Zz7L2Zz14S6",
  "Zz154L33P12Q3L6PL70PQ2L20P12L37PL5P4Q5P12L17P7Q8L63PLPL182PL4P2QL62P2M4P7Q5L24P18RP41RP86L5M",
  "L16ML3MLMLMLML3ML6M2L4MLM2L4ML12P2Q2L11P48L70P10QR2S2UW2Zz4YX3P13Zz3P4R3S2TUW2Zz3L116Y3Zz4Y5",
  "P85T4YZz6U12Zz4XZz15P12Zz4P56Zz8P10Zz6P40Zz8P30Zz2W2Za10Zz4Za2Zz62S12WU3Q9R6SR8S8RS2R12UR12ST3",
  "R15S13T5UWT4W2XTUT4Q5R13S6T11W2U6W3U2T10U6QT2U8WXU3S23T25U84Zz12T14Zz2U4WY3U3X2Zz3U3W4Y2ZaZz5",
  "ZaU6W19X4Y3W7X4Y3ZaYW3X3ZaZz7Y2W7X3Y2ZaZz2ZaX8YZaZz6X7Y2Zz7W147ZzW55Za37W10Zz1028B2E42711W7X2",
  "Zz32K4149X4YZz6L222Zz2Q5762Zz14S7473Zz15Z622Zz2466E542Zz1504B2W4939Zz5Y4192Zz56398B2Zz65534B2",
  "Zz65534B2Zz65534B2Zz65534B2Zz65534B2Zz65534B2Zz65534B2Zz65534B2Zz65534B2Zz65534B2ZzEZz30E96",
  "Zz128G240Zz65038B131074"]

end DocQuery
