/-!
# Tables of the compatibility normal form

The decompositions are those of Unicode 3.2, to which host names are bound; the marks and their
classes are those of Unicode 14.

* `imageRuns`: characters that stand for a text, which is decomposed as far as possible.
* `markRuns`: characters that are composed of another one and a mark.
* `markClasses`: the classes of marks.
-/

namespace Postprocessor.Text.Normal

/-- Successive characters that stand for texts. -/
structure ImageRun where
  first : Nat
  /-- The texts, with a blank between two of them.  An open box stands for a blank in a text, and an
  empty text for a character that stands for itself. -/
  images : String

/-- Characters composed of others and one mark. -/
structure MarkRun where
  mark : Nat
  bases : String
  composites : String

/-- The characters that stand for a text. -/
def imageRuns : List ImageRun := [
  ⟨0xA0, "␣"⟩, ⟨0xA8, "␣\u0308  a"⟩, ⟨0xAF, "␣\u0304   2 3 ␣\u0301 μ   ␣\u0327 1 o  1⁄4 1⁄2 3⁄4"⟩,
  ⟨0x132, "IJ ij"⟩, ⟨0x13F, "L· l·"⟩, ⟨0x149, "ʼn"⟩, ⟨0x17F, "s"⟩,
  ⟨0x1C4, "DZ\u030c Dz\u030c dz\u030c LJ Lj lj NJ Nj nj"⟩, ⟨0x1F1, "DZ Dz dz"⟩,
  ⟨0x2B0, "h ɦ j r ɹ ɻ ʁ w y"⟩,
  ⟨0x2D8, "␣\u0306 ␣\u0307 ␣\u030a ␣\u0328 ␣\u0303 ␣\u030b   ɣ l s x ʕ"⟩,
  ⟨0x340, "\u0300 \u0301  \u0313 \u0308\u0301"⟩, ⟨0x374, "ʹ"⟩, ⟨0x37A, "␣\u0345    ;"⟩,
  ⟨0x384, "␣\u0301   ·"⟩, ⟨0x3D0, "β θ Υ   φ π"⟩, ⟨0x3F0, "κ ρ ς  Θ ε"⟩, ⟨0x587, "եւ"⟩,
  ⟨0x675, "\u0627\u0674 \u0648\u0674 \u06c7\u0674 \u064a\u0674"⟩,
  ⟨0x958, "क\u093c ख\u093c ग\u093c ज\u093c ड\u093c ढ\u093c फ\u093c य\u093c"⟩,
  ⟨0x9DC, "ড\u09bc ঢ\u09bc  য\u09bc"⟩, ⟨0xA33, "ਲ\u0a3c   ਸ\u0a3c"⟩,
  ⟨0xA59, "ਖ\u0a3c ਗ\u0a3c ਜ\u0a3c   ਫ\u0a3c"⟩, ⟨0xB5C, "ଡ\u0b3c ଢ\u0b3c"⟩, ⟨0xE33, "\u0e4dา"⟩,
  ⟨0xEB3, "\u0ecdາ"⟩, ⟨0xEDC, "ຫນ ຫມ"⟩, ⟨0xF0C, "་"⟩, ⟨0xF43, "ག\u0fb7"⟩, ⟨0xF4D, "ཌ\u0fb7"⟩,
  ⟨0xF52, "ད\u0fb7"⟩, ⟨0xF57, "བ\u0fb7"⟩, ⟨0xF5C, "ཛ\u0fb7"⟩, ⟨0xF69, "ཀ\u0fb5"⟩,
  ⟨0xF73, "\u0f71\u0f72  \u0f71\u0f74 \u0fb2\u0f80 \u0fb2\u0f71\u0f80"⟩,
  ⟨0xF78, "\u0fb3\u0f80 \u0fb3\u0f71\u0f80"⟩, ⟨0xF81, "\u0f71\u0f80"⟩, ⟨0xF93, "\u0f92\u0fb7"⟩,
  ⟨0xF9D, "\u0f9c\u0fb7"⟩, ⟨0xFA2, "\u0fa1\u0fb7"⟩, ⟨0xFA7, "\u0fa6\u0fb7"⟩,
  ⟨0xFAC, "\u0fab\u0fb7"⟩, ⟨0xFB9, "\u0f90\u0fb5"⟩, ⟨0x1E9A, "aʾ"⟩,
  ⟨0x1F71, "α\u0301  ε\u0301  η\u0301  ι\u0301  ο\u0301  υ\u0301  ω\u0301"⟩,
  ⟨0x1FBB, "Α\u0301  ␣\u0313 ι ␣\u0313 ␣\u0342"⟩, ⟨0x1FC9, "Ε\u0301  Η\u0301"⟩,
  ⟨0x1FD3, "ι\u0308\u0301"⟩, ⟨0x1FDB, "Ι\u0301"⟩, ⟨0x1FE3, "υ\u0308\u0301"⟩,
  ⟨0x1FEB, "Υ\u0301   ␣\u0308\u0301 `"⟩,
  ⟨0x1FF9, "Ο\u0301  Ω\u0301  ␣\u0301 ␣\u0314  ␣ ␣ ␣ ␣ ␣ ␣ ␣ ␣ ␣ ␣ ␣"⟩, ⟨0x2011, "‐"⟩,
  ⟨0x2017, "␣\u0333"⟩, ⟨0x2024, ". .. ..."⟩, ⟨0x202F, "␣    ′′ ′′′  ‵‵ ‵‵‵"⟩,
  ⟨0x203C, "!!  ␣\u0305"⟩, ⟨0x2047, "?? ?! !?"⟩, ⟨0x2057, "′′′′"⟩, ⟨0x205F, "␣"⟩,
  ⟨0x2070, "0 i   4 5 6 7 8 9 + − = ( ) n 0 1 2 3 4 5 6 7 8 9 + − = ( )"⟩, ⟨0x20A8, "Rs"⟩,
  ⟨0x2100, "a/c a/s C °C  c/o c/u Ɛ  °F g H H H h ħ I I L l  N No   P Q R R R"⟩,
  ⟨0x2120, "SM TEL TM  Z  Ω  Z  K A\u030a B C  e E F  M o \u05d0 \u05d1 \u05d2"⟩,
  ⟨0x2138, "\u05d3 i    γ Γ Π ∑"⟩, ⟨0x2145, "D d e i j"⟩,
  ⟨0x2153, "1⁄3 2⁄3 1⁄5 2⁄5 3⁄5 4⁄5 1⁄6 5⁄6 1⁄8 3⁄8 5⁄8 7⁄8 1⁄ I II III IV V VI"⟩,
  ⟨0x2166, "VII VIII IX X XI XII L C D M i ii iii iv v vi vii viii ix x xi xii l"⟩,
  ⟨0x217D, "c d m"⟩, ⟨0x222C, "∫∫ ∫∫∫  ∮∮ ∮∮∮"⟩, ⟨0x2329, "〈 〉"⟩,
  ⟨0x2460, "1 2 3 4 5 6 7 8 9 10 11 12 13 14 15 16 17 18 19 20 (1) (2) (3) (4)"⟩,
  ⟨0x2478, "(5) (6) (7) (8) (9) (10) (11) (12) (13) (14) (15) (16) (17) (18) (19)"⟩,
  ⟨0x2487, "(20) 1. 2. 3. 4. 5. 6. 7. 8. 9. 10. 11. 12. 13. 14. 15. 16. 17. 18."⟩,
  ⟨0x249A, "19. 20. (a) (b) (c) (d) (e) (f) (g) (h) (i) (j) (k) (l) (m) (n) (o)"⟩,
  ⟨0x24AB, "(p) (q) (r) (s) (t) (u) (v) (w) (x) (y) (z) A B C D E F G H I J K L M"⟩,
  ⟨0x24C3, "N O P Q R S T U V W X Y Z a b c d e f g h i j k l m n o p q r s t u v"⟩,
  ⟨0x24E6, "w x y z 0"⟩, ⟨0x2A0C, "∫∫∫∫"⟩, ⟨0x2A74, "::= == ==="⟩, ⟨0x2ADC, "⫝\u0338"⟩,
  ⟨0x2E9F, "母"⟩, ⟨0x2EF3, "龟"⟩,
  ⟨0x2F00, "一 丨 丶 丿 乙 亅 二 亠 人 儿 入 八 冂 冖 冫 几 凵 刀 力 勹 匕 匚 匸 十 卜 卩 厂 厶 又 口 囗 土 士 夂 夊"⟩,
  ⟨0x2F23, "夕 大 女 子 宀 寸 小 尢 尸 屮 山 巛 工 己 巾 干 幺 广 廴 廾 弋 弓 彐 彡 彳 心 戈 戶 手 支 攴 文 斗 斤 方"⟩,
  ⟨0x2F46, "无 日 曰 月 木 欠 止 歹 殳 毋 比 毛 氏 气 水 火 爪 父 爻 爿 片 牙 牛 犬 玄 玉 瓜 瓦 甘 生 用 田 疋 疒 癶"⟩,
  ⟨0x2F69, "白 皮 皿 目 矛 矢 石 示 禸 禾 穴 立 竹 米 糸 缶 网 羊 羽 老 而 耒 耳 聿 肉 臣 自 至 臼 舌 舛 舟 艮 色 艸"⟩,
  ⟨0x2F8C, "虍 虫 血 行 衣 襾 見 角 言 谷 豆 豕 豸 貝 赤 走 足 身 車 辛 辰 辵 邑 酉 釆 里 金 長 門 阜 隶 隹 雨 靑 非"⟩,
  ⟨0x2FAF, "面 革 韋 韭 音 頁 風 飛 食 首 香 馬 骨 高 髟 鬥 鬯 鬲 鬼 魚 鳥 鹵 鹿 麥 麻 黃 黍 黑 黹 黽 鼎 鼓 鼠 鼻 齊"⟩,
  ⟨0x2FD2, "齒 龍 龜 龠"⟩, ⟨0x3000, "␣"⟩, ⟨0x3036, "〒  十 卄 卅"⟩, ⟨0x309B, "␣\u3099 ␣\u309a   より"⟩,
  ⟨0x30FF, "コト"⟩, ⟨0x3131, "ᄀ ᄁ ᆪ ᄂ ᆬ ᆭ ᄃ ᄄ ᄅ ᆰ ᆱ ᆲ ᆳ ᆴ ᆵ ᄚ ᄆ ᄇ ᄈ ᄡ ᄉ ᄊ ᄋ ᄌ ᄍ ᄎ ᄏ ᄐ ᄑ ᄒ ᅡ ᅢ ᅣ ᅤ ᅥ"⟩,
  ⟨0x3154, "ᅦ ᅧ ᅨ ᅩ ᅪ ᅫ ᅬ ᅭ ᅮ ᅯ ᅰ ᅱ ᅲ ᅳ ᅴ ᅵ ᅠ ᄔ ᄕ ᇇ ᇈ ᇌ ᇎ ᇓ ᇗ ᇙ ᄜ ᇝ ᇟ ᄝ ᄞ ᄠ ᄢ ᄣ ᄧ"⟩,
  ⟨0x3177, "ᄩ ᄫ ᄬ ᄭ ᄮ ᄯ ᄲ ᄶ ᅀ ᅇ ᅌ ᇱ ᇲ ᅗ ᅘ ᅙ ᆄ ᆅ ᆈ ᆑ ᆒ ᆔ ᆞ ᆡ    一 二 三 四 上 中 下 甲 乙"⟩,
  ⟨0x319B, "丙 丁 天 地 人"⟩,
  ⟨0x3200, "(ᄀ) (ᄂ) (ᄃ) (ᄅ) (ᄆ) (ᄇ) (ᄉ) (ᄋ) (ᄌ) (ᄎ) (ᄏ) (ᄐ) (ᄑ) (ᄒ) (가) (나)"⟩,
  ⟨0x3210, "(다) (라) (마) (바) (사) (아) (자) (차) (카) (타) (파) (하) (주)"⟩,
  ⟨0x3220, "(一) (二) (三) (四) (五) (六) (七) (八) (九) (十) (月) (火) (水) (木) (金) (土) (日)"⟩,
  ⟨0x3231, "(株) (有) (社) (名) (特) (財) (祝) (労) (代) (呼) (学) (監) (企) (資) (協) (祭) (休)"⟩,
  ⟨0x3242, "(自) (至)"⟩,
  ⟨0x3251, "21 22 23 24 25 26 27 28 29 30 31 32 33 34 35 ᄀ ᄂ ᄃ ᄅ ᄆ ᄇ ᄉ ᄋ ᄌ ᄎ ᄏ ᄐ"⟩,
  ⟨0x326C, "ᄑ ᄒ 가 나 다 라 마 바 사 아 자 차 카 타 파 하"⟩,
  ⟨0x3280, "一 二 三 四 五 六 七 八 九 十 月 火 水 木 金 土 日 株 有 社 名 特 財 祝 労 秘 男 女 適 優 印 注 項 休 写"⟩,
  ⟨0x32A3, "正 上 中 下 左 右 医 宗 学 監 企 資 協 夜 36 37 38 39 40 41 42 43 44 45 46 47 48 49"⟩,
  ⟨0x32BF, "50 1月 2月 3月 4月 5月 6月 7月 8月 9月 10月 11月 12月"⟩,
  ⟨0x32D0, "ア イ ウ エ オ カ キ ク ケ コ サ シ ス セ ソ タ チ ツ テ ト ナ ニ ヌ ネ ノ ハ ヒ フ ヘ ホ マ ミ ム メ モ"⟩,
  ⟨0x32F3, "ヤ ユ ヨ ラ リ ル レ ロ ワ ヰ ヱ ヲ  アハ\u309aート アルファ アンヘ\u309aア アール イニンク\u3099"⟩,
  ⟨0x3305, "インチ ウォン エスクート\u3099 エーカー オンス オーム カイリ カラット カロリー カ\u3099ロン カ\u3099ンマ"⟩,
  ⟨0x3310, "キ\u3099カ\u3099 キ\u3099ニー キュリー キ\u3099ルタ\u3099ー キロ キロク\u3099ラム キロメートル"⟩,
  ⟨0x3317, "キロワット ク\u3099ラム ク\u3099ラムトン クルセ\u3099イロ クローネ ケース コルナ コーホ\u309a サイクル"⟩,
  ⟨0x3320, "サンチーム シリンク\u3099 センチ セント タ\u3099ース テ\u3099シ ト\u3099ル トン ナノ ノット ハイツ"⟩,
  ⟨0x332B, "ハ\u309aーセント ハ\u309aーツ ハ\u3099ーレル ヒ\u309aアストル ヒ\u309aクル ヒ\u309aコ"⟩,
  ⟨0x3331, "ヒ\u3099ル ファラット\u3099 フィート フ\u3099ッシェル フラン ヘクタール ヘ\u309aソ ヘ\u309aニヒ"⟩,
  ⟨0x3339, "ヘルツ ヘ\u309aンス ヘ\u309aーシ\u3099 ヘ\u3099ータ ホ\u309aイント ホ\u3099ルト ホン"⟩,
  ⟨0x3340, "ホ\u309aント\u3099 ホール ホーン マイクロ マイル マッハ マルク マンション ミクロン ミリ ミリハ\u3099ール"⟩,
  ⟨0x334B, "メカ\u3099 メカ\u3099トン メートル ヤート\u3099 ヤール ユアン リットル リラ ルヒ\u309aー"⟩,
  ⟨0x3354, "ルーフ\u3099ル レム レントケ\u3099ン ワット 0点 1点 2点 3点 4点 5点 6点 7点 8点 9点 10点 11点"⟩,
  ⟨0x3364, "12点 13点 14点 15点 16点 17点 18点 19点 20点 21点 22点 23点 24点 hPa da AU bar oV"⟩, ⟨0x3376, "pc"⟩,
  ⟨0x337B, "平成 昭和 大正 明治 株式会社 pA nA μA mA kA KB MB GB cal kcal pF nF μF μg mg kg"⟩,
  ⟨0x3390, "Hz kHz MHz GHz THz μl ml dl kl fm nm μm mm cm km mm2 cm2 m2 km2 mm3"⟩,
  ⟨0x33A4, "cm3 m3 km3 m∕s m∕s2 Pa kPa MPa GPa rad rad∕s rad∕s2 ps ns μs ms pV nV"⟩,
  ⟨0x33B6, "μV mV kV MV pW nW μW mW kW MW kΩ MΩ a.m. Bq cc cd C∕kg Co. dB Gy ha"⟩,
  ⟨0x33CB, "HP in KK KM kt lm ln log lx mb mil mol PH p.m. PPM PR sr Sv Wb   1日"⟩,
  ⟨0x33E1, "2日 3日 4日 5日 6日 7日 8日 9日 10日 11日 12日 13日 14日 15日 16日 17日 18日 19日 20日"⟩,
  ⟨0x33F4, "21日 22日 23日 24日 25日 26日 27日 28日 29日 30日 31日"⟩,
  ⟨0xF900, "豈 更 車 賈 滑 串 句 龜 龜 契 金 喇 奈 懶 癩 羅 蘿 螺 裸 邏 樂 洛 烙 珞 落 酪 駱 亂 卵 欄 爛 蘭 鸞 嵐 濫"⟩,
  ⟨0xF923, "藍 襤 拉 臘 蠟 廊 朗 浪 狼 郎 來 冷 勞 擄 櫓 爐 盧 老 蘆 虜 路 露 魯 鷺 碌 祿 綠 菉 錄 鹿 論 壟 弄 籠 聾"⟩,
  ⟨0xF946, "牢 磊 賂 雷 壘 屢 樓 淚 漏 累 縷 陋 勒 肋 凜 凌 稜 綾 菱 陵 讀 拏 樂 諾 丹 寧 怒 率 異 北 磻 便 復 不 泌"⟩,
  ⟨0xF969, "數 索 參 塞 省 葉 說 殺 辰 沈 拾 若 掠 略 亮 兩 凉 梁 糧 良 諒 量 勵 呂 女 廬 旅 濾 礪 閭 驪 麗 黎 力 曆"⟩,
  ⟨0xF98C, "歷 轢 年 憐 戀 撚 漣 煉 璉 秊 練 聯 輦 蓮 連 鍊 列 劣 咽 烈 裂 說 廉 念 捻 殮 簾 獵 令 囹 寧 嶺 怜 玲 瑩"⟩,
  ⟨0xF9AF, "羚 聆 鈴 零 靈 領 例 禮 醴 隸 惡 了 僚 寮 尿 料 樂 燎 療 蓼 遼 龍 暈 阮 劉 杻 柳 流 溜 琉 留 硫 紐 類 六"⟩,
  ⟨0xF9D2, "戮 陸 倫 崙 淪 輪 律 慄 栗 率 隆 利 吏 履 易 李 梨 泥 理 痢 罹 裏 裡 里 離 匿 溺 吝 燐 璘 藺 隣 鱗 麟 林"⟩,
  ⟨0xF9F5, "淋 臨 立 笠 粒 狀 炙 識 什 茶 刺 切 度 拓 糖 宅 洞 暴 輻 行 降 見 廓 兀 嗀   塚  晴   凞 猪 益 礼 神"⟩,
  ⟨0xFA1A, "祥 福 靖 精 羽  蘒  諸   逸 都    飯 飼 館 鶴   侮 僧 免 勉 勤 卑 喝 嘆 器 塀 墨 層 屮 悔 慨 憎 懲"⟩,
  ⟨0xFA41, "敏 既 暑 梅 海 渚 漢 煮 爫 琢 碑 社 祉 祈 祐 祖 祝 禍 禎 穀 突 節 練 縉 繁 署 者 臭 艹 艹 著 褐 視 謁 謹"⟩,
  ⟨0xFA64, "賓 贈 辶 逸 難 響 頻"⟩, ⟨0xFB00, "ff fi fl ffi ffl st st"⟩, ⟨0xFB13, "մն մե մի վն մխ"⟩,
  ⟨0xFB1D, "\u05d9\u05b4  \u05f2\u05b7 \u05e2 \u05d0 \u05d3 \u05d4 \u05db \u05dc"⟩,
  ⟨0xFB26, "\u05dd \u05e8 \u05ea + \u05e9\u05c1 \u05e9\u05c2 \u05e9\u05bc\u05c1"⟩,
  ⟨0xFB2D, "\u05e9\u05bc\u05c2 \u05d0\u05b7 \u05d0\u05b8 \u05d0\u05bc"⟩,
  ⟨0xFB31, "\u05d1\u05bc \u05d2\u05bc \u05d3\u05bc \u05d4\u05bc \u05d5\u05bc"⟩,
  ⟨0xFB36, "\u05d6\u05bc  \u05d8\u05bc \u05d9\u05bc \u05da\u05bc \u05db\u05bc"⟩,
  ⟨0xFB3C, "\u05dc\u05bc  \u05de\u05bc  \u05e0\u05bc \u05e1\u05bc  \u05e3\u05bc"⟩,
  ⟨0xFB44, "\u05e4\u05bc  \u05e6\u05bc \u05e7\u05bc \u05e8\u05bc \u05e9\u05bc"⟩,
  ⟨0xFB4A, "\u05ea\u05bc \u05d5\u05b9 \u05d1\u05bf \u05db\u05bf \u05e4\u05bf"⟩,
  ⟨0xFB4F, "\u05d0\u05dc \u0671 \u0671 \u067b \u067b \u067b \u067b \u067e \u067e"⟩,
  ⟨0xFB58, "\u067e \u067e \u0680 \u0680 \u0680 \u0680 \u067a \u067a \u067a \u067a"⟩,
  ⟨0xFB62, "\u067f \u067f \u067f \u067f \u0679 \u0679 \u0679 \u0679 \u06a4 \u06a4"⟩,
  ⟨0xFB6C, "\u06a4 \u06a4 \u06a6 \u06a6 \u06a6 \u06a6 \u0684 \u0684 \u0684 \u0684"⟩,
  ⟨0xFB76, "\u0683 \u0683 \u0683 \u0683 \u0686 \u0686 \u0686 \u0686 \u0687 \u0687"⟩,
  ⟨0xFB80, "\u0687 \u0687 \u068d \u068d \u068c \u068c \u068e \u068e \u0688 \u0688"⟩,
  ⟨0xFB8A, "\u0698 \u0698 \u0691 \u0691 \u06a9 \u06a9 \u06a9 \u06a9 \u06af \u06af"⟩,
  ⟨0xFB94, "\u06af \u06af \u06b3 \u06b3 \u06b3 \u06b3 \u06b1 \u06b1 \u06b1 \u06b1"⟩,
  ⟨0xFB9E, "\u06ba \u06ba \u06bb \u06bb \u06bb \u06bb \u06d5\u0654 \u06d5\u0654"⟩,
  ⟨0xFBA6, "\u06c1 \u06c1 \u06c1 \u06c1 \u06be \u06be \u06be \u06be \u06d2 \u06d2"⟩,
  ⟨0xFBB0, "\u06d2\u0654 \u06d2\u0654"⟩,
  ⟨0xFBD3, "\u06ad \u06ad \u06ad \u06ad \u06c7 \u06c7 \u06c6 \u06c6 \u06c8 \u06c8"⟩,
  ⟨0xFBDD, "\u06c7\u0674 \u06cb \u06cb \u06c5 \u06c5 \u06c9 \u06c9 \u06d0 \u06d0"⟩,
  ⟨0xFBE6, "\u06d0 \u06d0 \u0649 \u0649 \u064a\u0654\u0627 \u064a\u0654\u0627"⟩,
  ⟨0xFBEC, "\u064a\u0654\u06d5 \u064a\u0654\u06d5 \u064a\u0654\u0648"⟩,
  ⟨0xFBEF, "\u064a\u0654\u0648 \u064a\u0654\u06c7 \u064a\u0654\u06c7"⟩,
  ⟨0xFBF2, "\u064a\u0654\u06c6 \u064a\u0654\u06c6 \u064a\u0654\u06c8"⟩,
  ⟨0xFBF5, "\u064a\u0654\u06c8 \u064a\u0654\u06d0 \u064a\u0654\u06d0"⟩,
  ⟨0xFBF8, "\u064a\u0654\u06d0 \u064a\u0654\u0649 \u064a\u0654\u0649"⟩,
  ⟨0xFBFB, "\u064a\u0654\u0649 \u06cc \u06cc \u06cc \u06cc \u064a\u0654\u062c"⟩,
  ⟨0xFC01, "\u064a\u0654\u062d \u064a\u0654\u0645 \u064a\u0654\u0649"⟩,
  ⟨0xFC04, "\u064a\u0654\u064a \u0628\u062c \u0628\u062d \u0628\u062e"⟩,
  ⟨0xFC08, "\u0628\u0645 \u0628\u0649 \u0628\u064a \u062a\u062c \u062a\u062d"⟩,
  ⟨0xFC0D, "\u062a\u062e \u062a\u0645 \u062a\u0649 \u062a\u064a \u062b\u062c"⟩,
  ⟨0xFC12, "\u062b\u0645 \u062b\u0649 \u062b\u064a \u062c\u062d \u062c\u0645"⟩,
  ⟨0xFC17, "\u062d\u062c \u062d\u0645 \u062e\u062c \u062e\u062d \u062e\u0645"⟩,
  ⟨0xFC1C, "\u0633\u062c \u0633\u062d \u0633\u062e \u0633\u0645 \u0635\u062d"⟩,
  ⟨0xFC21, "\u0635\u0645 \u0636\u062c \u0636\u062d \u0636\u062e \u0636\u0645"⟩,
  ⟨0xFC26, "\u0637\u062d \u0637\u0645 \u0638\u0645 \u0639\u062c \u0639\u0645"⟩,
  ⟨0xFC2B, "\u063a\u062c \u063a\u0645 \u0641\u062c \u0641\u062d \u0641\u062e"⟩,
  ⟨0xFC30, "\u0641\u0645 \u0641\u0649 \u0641\u064a \u0642\u062d \u0642\u0645"⟩,
  ⟨0xFC35, "\u0642\u0649 \u0642\u064a \u0643\u0627 \u0643\u062c \u0643\u062d"⟩,
  ⟨0xFC3A, "\u0643\u062e \u0643\u0644 \u0643\u0645 \u0643\u0649 \u0643\u064a"⟩,
  ⟨0xFC3F, "\u0644\u062c \u0644\u062d \u0644\u062e \u0644\u0645 \u0644\u0649"⟩,
  ⟨0xFC44, "\u0644\u064a \u0645\u062c \u0645\u062d \u0645\u062e \u0645\u0645"⟩,
  ⟨0xFC49, "\u0645\u0649 \u0645\u064a \u0646\u062c \u0646\u062d \u0646\u062e"⟩,
  ⟨0xFC4E, "\u0646\u0645 \u0646\u0649 \u0646\u064a \u0647\u062c \u0647\u0645"⟩,
  ⟨0xFC53, "\u0647\u0649 \u0647\u064a \u064a\u062c \u064a\u062d \u064a\u062e"⟩,
  ⟨0xFC58, "\u064a\u0645 \u064a\u0649 \u064a\u064a \u0630\u0670 \u0631\u0670"⟩,
  ⟨0xFC5D, "\u0649\u0670 ␣\u064c\u0651 ␣\u064d\u0651 ␣\u064e\u0651 ␣\u064f\u0651"⟩,
  ⟨0xFC62, "␣\u0650\u0651 ␣\u0651\u0670 \u064a\u0654\u0631 \u064a\u0654\u0632"⟩,
  ⟨0xFC66, "\u064a\u0654\u0645 \u064a\u0654\u0646 \u064a\u0654\u0649"⟩,
  ⟨0xFC69, "\u064a\u0654\u064a \u0628\u0631 \u0628\u0632 \u0628\u0645"⟩,
  ⟨0xFC6D, "\u0628\u0646 \u0628\u0649 \u0628\u064a \u062a\u0631 \u062a\u0632"⟩,
  ⟨0xFC72, "\u062a\u0645 \u062a\u0646 \u062a\u0649 \u062a\u064a \u062b\u0631"⟩,
  ⟨0xFC77, "\u062b\u0632 \u062b\u0645 \u062b\u0646 \u062b\u0649 \u062b\u064a"⟩,
  ⟨0xFC7C, "\u0641\u0649 \u0641\u064a \u0642\u0649 \u0642\u064a \u0643\u0627"⟩,
  ⟨0xFC81, "\u0643\u0644 \u0643\u0645 \u0643\u0649 \u0643\u064a \u0644\u0645"⟩,
  ⟨0xFC86, "\u0644\u0649 \u0644\u064a \u0645\u0627 \u0645\u0645 \u0646\u0631"⟩,
  ⟨0xFC8B, "\u0646\u0632 \u0646\u0645 \u0646\u0646 \u0646\u0649 \u0646\u064a"⟩,
  ⟨0xFC90, "\u0649\u0670 \u064a\u0631 \u064a\u0632 \u064a\u0645 \u064a\u0646"⟩,
  ⟨0xFC95, "\u064a\u0649 \u064a\u064a \u064a\u0654\u062c \u064a\u0654\u062d"⟩,
  ⟨0xFC99, "\u064a\u0654\u062e \u064a\u0654\u0645 \u064a\u0654\u0647 \u0628\u062c"⟩,
  ⟨0xFC9D, "\u0628\u062d \u0628\u062e \u0628\u0645 \u0628\u0647 \u062a\u062c"⟩,
  ⟨0xFCA2, "\u062a\u062d \u062a\u062e \u062a\u0645 \u062a\u0647 \u062b\u0645"⟩,
  ⟨0xFCA7, "\u062c\u062d \u062c\u0645 \u062d\u062c \u062d\u0645 \u062e\u062c"⟩,
  ⟨0xFCAC, "\u062e\u0645 \u0633\u062c \u0633\u062d \u0633\u062e \u0633\u0645"⟩,
  ⟨0xFCB1, "\u0635\u062d \u0635\u062e \u0635\u0645 \u0636\u062c \u0636\u062d"⟩,
  ⟨0xFCB6, "\u0636\u062e \u0636\u0645 \u0637\u062d \u0638\u0645 \u0639\u062c"⟩,
  ⟨0xFCBB, "\u0639\u0645 \u063a\u062c \u063a\u0645 \u0641\u062c \u0641\u062d"⟩,
  ⟨0xFCC0, "\u0641\u062e \u0641\u0645 \u0642\u062d \u0642\u0645 \u0643\u062c"⟩,
  ⟨0xFCC5, "\u0643\u062d \u0643\u062e \u0643\u0644 \u0643\u0645 \u0644\u062c"⟩,
  ⟨0xFCCA, "\u0644\u062d \u0644\u062e \u0644\u0645 \u0644\u0647 \u0645\u062c"⟩,
  ⟨0xFCCF, "\u0645\u062d \u0645\u062e \u0645\u0645 \u0646\u062c \u0646\u062d"⟩,
  ⟨0xFCD4, "\u0646\u062e \u0646\u0645 \u0646\u0647 \u0647\u062c \u0647\u0645"⟩,
  ⟨0xFCD9, "\u0647\u0670 \u064a\u062c \u064a\u062d \u064a\u062e \u064a\u0645"⟩,
  ⟨0xFCDE, "\u064a\u0647 \u064a\u0654\u0645 \u064a\u0654\u0647 \u0628\u0645"⟩,
  ⟨0xFCE2, "\u0628\u0647 \u062a\u0645 \u062a\u0647 \u062b\u0645 \u062b\u0647"⟩,
  ⟨0xFCE7, "\u0633\u0645 \u0633\u0647 \u0634\u0645 \u0634\u0647 \u0643\u0644"⟩,
  ⟨0xFCEC, "\u0643\u0645 \u0644\u0645 \u0646\u0645 \u0646\u0647 \u064a\u0645"⟩,
  ⟨0xFCF1, "\u064a\u0647 \u0640\u064e\u0651 \u0640\u064f\u0651 \u0640\u0650\u0651"⟩,
  ⟨0xFCF5, "\u0637\u0649 \u0637\u064a \u0639\u0649 \u0639\u064a \u063a\u0649"⟩,
  ⟨0xFCFA, "\u063a\u064a \u0633\u0649 \u0633\u064a \u0634\u0649 \u0634\u064a"⟩,
  ⟨0xFCFF, "\u062d\u0649 \u062d\u064a \u062c\u0649 \u062c\u064a \u062e\u0649"⟩,
  ⟨0xFD04, "\u062e\u064a \u0635\u0649 \u0635\u064a \u0636\u0649 \u0636\u064a"⟩,
  ⟨0xFD09, "\u0634\u062c \u0634\u062d \u0634\u062e \u0634\u0645 \u0634\u0631"⟩,
  ⟨0xFD0E, "\u0633\u0631 \u0635\u0631 \u0636\u0631 \u0637\u0649 \u0637\u064a"⟩,
  ⟨0xFD13, "\u0639\u0649 \u0639\u064a \u063a\u0649 \u063a\u064a \u0633\u0649"⟩,
  ⟨0xFD18, "\u0633\u064a \u0634\u0649 \u0634\u064a \u062d\u0649 \u062d\u064a"⟩,
  ⟨0xFD1D, "\u062c\u0649 \u062c\u064a \u062e\u0649 \u062e\u064a \u0635\u0649"⟩,
  ⟨0xFD22, "\u0635\u064a \u0636\u0649 \u0636\u064a \u0634\u062c \u0634\u062d"⟩,
  ⟨0xFD27, "\u0634\u062e \u0634\u0645 \u0634\u0631 \u0633\u0631 \u0635\u0631"⟩,
  ⟨0xFD2C, "\u0636\u0631 \u0634\u062c \u0634\u062d \u0634\u062e \u0634\u0645"⟩,
  ⟨0xFD31, "\u0633\u0647 \u0634\u0647 \u0637\u0645 \u0633\u062c \u0633\u062d"⟩,
  ⟨0xFD36, "\u0633\u062e \u0634\u062c \u0634\u062d \u0634\u062e \u0637\u0645"⟩,
  ⟨0xFD3B, "\u0638\u0645 \u0627\u064b \u0627\u064b"⟩,
  ⟨0xFD50, "\u062a\u062c\u0645 \u062a\u062d\u062c \u062a\u062d\u062c"⟩,
  ⟨0xFD53, "\u062a\u062d\u0645 \u062a\u062e\u0645 \u062a\u0645\u062c"⟩,
  ⟨0xFD56, "\u062a\u0645\u062d \u062a\u0645\u062e \u062c\u0645\u062d"⟩,
  ⟨0xFD59, "\u062c\u0645\u062d \u062d\u0645\u064a \u062d\u0645\u0649"⟩,
  ⟨0xFD5C, "\u0633\u062d\u062c \u0633\u062c\u062d \u0633\u062c\u0649"⟩,
  ⟨0xFD5F, "\u0633\u0645\u062d \u0633\u0645\u062d \u0633\u0645\u062c"⟩,
  ⟨0xFD62, "\u0633\u0645\u0645 \u0633\u0645\u0645 \u0635\u062d\u062d"⟩,
  ⟨0xFD65, "\u0635\u062d\u062d \u0635\u0645\u0645 \u0634\u062d\u0645"⟩,
  ⟨0xFD68, "\u0634\u062d\u0645 \u0634\u062c\u064a \u0634\u0645\u062e"⟩,
  ⟨0xFD6B, "\u0634\u0645\u062e \u0634\u0645\u0645 \u0634\u0645\u0645"⟩,
  ⟨0xFD6E, "\u0636\u062d\u0649 \u0636\u062e\u0645 \u0636\u062e\u0645"⟩,
  ⟨0xFD71, "\u0637\u0645\u062d \u0637\u0645\u062d \u0637\u0645\u0645"⟩,
  ⟨0xFD74, "\u0637\u0645\u064a \u0639\u062c\u0645 \u0639\u0645\u0645"⟩,
  ⟨0xFD77, "\u0639\u0645\u0645 \u0639\u0645\u0649 \u063a\u0645\u0645"⟩,
  ⟨0xFD7A, "\u063a\u0645\u064a \u063a\u0645\u0649 \u0641\u062e\u0645"⟩,
  ⟨0xFD7D, "\u0641\u062e\u0645 \u0642\u0645\u062d \u0642\u0645\u0645"⟩,
  ⟨0xFD80, "\u0644\u062d\u0645 \u0644\u062d\u064a \u0644\u062d\u0649"⟩,
  ⟨0xFD83, "\u0644\u062c\u062c \u0644\u062c\u062c \u0644\u062e\u0645"⟩,
  ⟨0xFD86, "\u0644\u062e\u0645 \u0644\u0645\u062d \u0644\u0645\u062d"⟩,
  ⟨0xFD89, "\u0645\u062d\u062c \u0645\u062d\u0645 \u0645\u062d\u064a"⟩,
  ⟨0xFD8C, "\u0645\u062c\u062d \u0645\u062c\u0645 \u0645\u062e\u062c"⟩,
  ⟨0xFD8F, "\u0645\u062e\u0645   \u0645\u062c\u062e \u0647\u0645\u062c"⟩,
  ⟨0xFD94, "\u0647\u0645\u0645 \u0646\u062d\u0645 \u0646\u062d\u0649"⟩,
  ⟨0xFD97, "\u0646\u062c\u0645 \u0646\u062c\u0645 \u0646\u062c\u0649"⟩,
  ⟨0xFD9A, "\u0646\u0645\u064a \u0646\u0645\u0649 \u064a\u0645\u0645"⟩,
  ⟨0xFD9D, "\u064a\u0645\u0645 \u0628\u062e\u064a \u062a\u062c\u064a"⟩,
  ⟨0xFDA0, "\u062a\u062c\u0649 \u062a\u062e\u064a \u062a\u062e\u0649"⟩,
  ⟨0xFDA3, "\u062a\u0645\u064a \u062a\u0645\u0649 \u062c\u0645\u064a"⟩,
  ⟨0xFDA6, "\u062c\u062d\u0649 \u062c\u0645\u0649 \u0633\u062e\u0649"⟩,
  ⟨0xFDA9, "\u0635\u062d\u064a \u0634\u062d\u064a \u0636\u062d\u064a"⟩,
  ⟨0xFDAC, "\u0644\u062c\u064a \u0644\u0645\u064a \u064a\u062d\u064a"⟩,
  ⟨0xFDAF, "\u064a\u062c\u064a \u064a\u0645\u064a \u0645\u0645\u064a"⟩,
  ⟨0xFDB2, "\u0642\u0645\u064a \u0646\u062d\u064a \u0642\u0645\u062d"⟩,
  ⟨0xFDB5, "\u0644\u062d\u0645 \u0639\u0645\u064a \u0643\u0645\u064a"⟩,
  ⟨0xFDB8, "\u0646\u062c\u062d \u0645\u062e\u064a \u0644\u062c\u0645"⟩,
  ⟨0xFDBB, "\u0643\u0645\u0645 \u0644\u062c\u0645 \u0646\u062c\u062d"⟩,
  ⟨0xFDBE, "\u062c\u062d\u064a \u062d\u062c\u064a \u0645\u062c\u064a"⟩,
  ⟨0xFDC1, "\u0641\u0645\u064a \u0628\u062d\u064a \u0643\u0645\u0645"⟩,
  ⟨0xFDC4, "\u0639\u062c\u0645 \u0635\u0645\u0645 \u0633\u062e\u064a"⟩,
  ⟨0xFDC7, "\u0646\u062c\u064a"⟩,
  ⟨0xFDF0, "\u0635\u0644\u06d2 \u0642\u0644\u06d2 \u0627\u0644\u0644\u0647"⟩,
  ⟨0xFDF3, "\u0627\u0643\u0628\u0631 \u0645\u062d\u0645\u062f"⟩,
  ⟨0xFDF5, "\u0635\u0644\u0639\u0645 \u0631\u0633\u0648\u0644"⟩,
  ⟨0xFDF7, "\u0639\u0644\u064a\u0647 \u0648\u0633\u0644\u0645 \u0635\u0644\u0649"⟩,
  ⟨0xFDFA, "\u0635\u0644\u0649␣\u0627\u0644\u0644\u0647"
    ++ "␣\u0639\u0644\u064a\u0647␣\u0648\u0633\u0644\u0645"⟩,
  ⟨0xFDFB, "\u062c\u0644␣\u062c\u0644\u0627\u0644\u0647 \u0631\u06cc\u0627\u0644"⟩,
  ⟨0xFE30, ".. — – _ _ ( ) \x7b \x7d 〔 〕 【 】 《 》 〈 〉 「 」 『 』"⟩,
  ⟨0xFE49, "␣\u0305 ␣\u0305 ␣\u0305 ␣\u0305 _ _ _ , 、 .  ; : ? ! — ( ) \x7b \x7d"⟩,
  ⟨0xFE5D, "〔 〕 # & * + - < > =  \\ $ % @"⟩,
  ⟨0xFE70, "␣\u064b \u0640\u064b ␣\u064c  ␣\u064d  ␣\u064e \u0640\u064e ␣\u064f"⟩,
  ⟨0xFE79, "\u0640\u064f ␣\u0650 \u0640\u0650 ␣\u0651 \u0640\u0651 ␣\u0652"⟩,
  ⟨0xFE7F, "\u0640\u0652 \u0621 \u0627\u0653 \u0627\u0653 \u0627\u0654"⟩,
  ⟨0xFE84, "\u0627\u0654 \u0648\u0654 \u0648\u0654 \u0627\u0655 \u0627\u0655"⟩,
  ⟨0xFE89, "\u064a\u0654 \u064a\u0654 \u064a\u0654 \u064a\u0654 \u0627 \u0627"⟩,
  ⟨0xFE8F, "\u0628 \u0628 \u0628 \u0628 \u0629 \u0629 \u062a \u062a \u062a \u062a"⟩,
  ⟨0xFE99, "\u062b \u062b \u062b \u062b \u062c \u062c \u062c \u062c \u062d \u062d"⟩,
  ⟨0xFEA3, "\u062d \u062d \u062e \u062e \u062e \u062e \u062f \u062f \u0630 \u0630"⟩,
  ⟨0xFEAD, "\u0631 \u0631 \u0632 \u0632 \u0633 \u0633 \u0633 \u0633 \u0634 \u0634"⟩,
  ⟨0xFEB7, "\u0634 \u0634 \u0635 \u0635 \u0635 \u0635 \u0636 \u0636 \u0636 \u0636"⟩,
  ⟨0xFEC1, "\u0637 \u0637 \u0637 \u0637 \u0638 \u0638 \u0638 \u0638 \u0639 \u0639"⟩,
  ⟨0xFECB, "\u0639 \u0639 \u063a \u063a \u063a \u063a \u0641 \u0641 \u0641 \u0641"⟩,
  ⟨0xFED5, "\u0642 \u0642 \u0642 \u0642 \u0643 \u0643 \u0643 \u0643 \u0644 \u0644"⟩,
  ⟨0xFEDF, "\u0644 \u0644 \u0645 \u0645 \u0645 \u0645 \u0646 \u0646 \u0646 \u0646"⟩,
  ⟨0xFEE9, "\u0647 \u0647 \u0647 \u0647 \u0648 \u0648 \u0649 \u0649 \u064a \u064a"⟩,
  ⟨0xFEF3, "\u064a \u064a \u0644\u0627\u0653 \u0644\u0627\u0653"⟩,
  ⟨0xFEF7, "\u0644\u0627\u0654 \u0644\u0627\u0654 \u0644\u0627\u0655"⟩,
  ⟨0xFEFA, "\u0644\u0627\u0655 \u0644\u0627 \u0644\u0627"⟩,
  ⟨0xFF01, "! \" # $ % & ' ( ) * + , - . / 0 1 2 3 4 5 6 7 8 9 : ; < = > ? @ A B"⟩,
  ⟨0xFF23, "C D E F G H I J K L M N O P Q R S T U V W X Y Z [ \\ ] ^ _ ` a b c d"⟩,
  ⟨0xFF45, "e f g h i j k l m n o p q r s t u v w x y z \x7b | \x7d ~ ⦅ ⦆ 。 「 」 、"⟩,
  ⟨0xFF65, "・ ヲ ァ ィ ゥ ェ ォ ャ ュ ョ ッ ー ア イ ウ エ オ カ キ ク ケ コ サ シ ス セ ソ タ チ ツ テ ト ナ ニ ヌ"⟩,
  ⟨0xFF88, "ネ ノ ハ ヒ フ ヘ ホ マ ミ ム メ モ ヤ ユ ヨ ラ リ ル レ ロ ワ ン \u3099 \u309a ᅠ ᄀ ᄁ ᆪ ᄂ ᆬ"⟩,
  ⟨0xFFA6, "ᆭ ᄃ ᄄ ᄅ ᆰ ᆱ ᆲ ᆳ ᆴ ᆵ ᄚ ᄆ ᄇ ᄈ ᄡ ᄉ ᄊ ᄋ ᄌ ᄍ ᄎ ᄏ ᄐ ᄑ ᄒ    ᅡ ᅢ ᅣ ᅤ ᅥ ᅦ   ᅧ"⟩,
  ⟨0xFFCB, "ᅨ ᅩ ᅪ ᅫ ᅬ   ᅭ ᅮ ᅯ ᅰ ᅱ ᅲ   ᅳ ᅴ ᅵ    ¢ £ ¬ ␣\u0304 ¦ ¥ ₩  │ ← ↑ → ↓ ■ ○"⟩,
  ⟨0x1D15E, "𝅗𝅥 𝅘𝅥 𝅘𝅥𝅮 𝅘𝅥𝅯 𝅘𝅥𝅰 𝅘𝅥𝅱 𝅘𝅥𝅲"⟩, ⟨0x1D1BB, "𝆹𝅥 𝆺𝅥 𝆹𝅥𝅮 𝆺𝅥𝅮 𝆹𝅥𝅯 𝆺𝅥𝅯"⟩,
  ⟨0x1D400, "A B C D E F G H I J K L M N O P Q R S T U V W X Y Z a b c d e f g h i"⟩,
  ⟨0x1D423, "j k l m n o p q r s t u v w x y z A B C D E F G H I J K L M N O P Q R"⟩,
  ⟨0x1D446, "S T U V W X Y Z a b c d e f g  i j k l m n o p q r s t u v w x y z A"⟩,
  ⟨0x1D469, "B C D E F G H I J K L M N O P Q R S T U V W X Y Z a b c d e f g h i j"⟩,
  ⟨0x1D48C, "k l m n o p q r s t u v w x y z A  C D   G   J K   N O P Q  S T U V W"⟩,
  ⟨0x1D4B3, "X Y Z a b c d  f  h i j k  m n  p q r s t u v w x y z A B C D E F G H"⟩,
  ⟨0x1D4D8, "I J K L M N O P Q R S T U V W X Y Z a b c d e f g h i j k l m n o p q"⟩,
  ⟨0x1D4FB, "r s t u v w x y z A B  D E F G   J K L M N O P Q  S T U V W X Y  a b"⟩,
  ⟨0x1D520, "c d e f g h i j k l m n o p q r s t u v w x y z A B  D E F G  I J K L"⟩,
  ⟨0x1D544, "M  O    S T U V W X Y  a b c d e f g h i j k l m n o p q r s t u v w"⟩,
  ⟨0x1D569, "x y z A B C D E F G H I J K L M N O P Q R S T U V W X Y Z a b c d e f"⟩,
  ⟨0x1D58C, "g h i j k l m n o p q r s t u v w x y z A B C D E F G H I J K L M N O"⟩,
  ⟨0x1D5AF, "P Q R S T U V W X Y Z a b c d e f g h i j k l m n o p q r s t u v w x"⟩,
  ⟨0x1D5D2, "y z A B C D E F G H I J K L M N O P Q R S T U V W X Y Z a b c d e f g"⟩,
  ⟨0x1D5F5, "h i j k l m n o p q r s t u v w x y z A B C D E F G H I J K L M N O P"⟩,
  ⟨0x1D618, "Q R S T U V W X Y Z a b c d e f g h i j k l m n o p q r s t u v w x y"⟩,
  ⟨0x1D63B, "z A B C D E F G H I J K L M N O P Q R S T U V W X Y Z a b c d e f g h"⟩,
  ⟨0x1D65E, "i j k l m n o p q r s t u v w x y z A B C D E F G H I J K L M N O P Q"⟩,
  ⟨0x1D681, "R S T U V W X Y Z a b c d e f g h i j k l m n o p q r s t u v w x y z"⟩,
  ⟨0x1D6A8, "Α Β Γ Δ Ε Ζ Η Θ Ι Κ Λ Μ Ν Ξ Ο Π Ρ Θ Σ Τ Υ Φ Χ Ψ Ω ∇ α β γ δ ε ζ η θ ι"⟩,
  ⟨0x1D6CB, "κ λ μ ν ξ ο π ρ ς σ τ υ φ χ ψ ω ∂ ε θ κ φ ρ π Α Β Γ Δ Ε Ζ Η Θ Ι Κ Λ Μ"⟩,
  ⟨0x1D6EE, "Ν Ξ Ο Π Ρ Θ Σ Τ Υ Φ Χ Ψ Ω ∇ α β γ δ ε ζ η θ ι κ λ μ ν ξ ο π ρ ς σ τ υ"⟩,
  ⟨0x1D711, "φ χ ψ ω ∂ ε θ κ φ ρ π Α Β Γ Δ Ε Ζ Η Θ Ι Κ Λ Μ Ν Ξ Ο Π Ρ Θ Σ Τ Υ Φ Χ Ψ"⟩,
  ⟨0x1D734, "Ω ∇ α β γ δ ε ζ η θ ι κ λ μ ν ξ ο π ρ ς σ τ υ φ χ ψ ω ∂ ε θ κ φ ρ π Α"⟩,
  ⟨0x1D757, "Β Γ Δ Ε Ζ Η Θ Ι Κ Λ Μ Ν Ξ Ο Π Ρ Θ Σ Τ Υ Φ Χ Ψ Ω ∇ α β γ δ ε ζ η θ ι κ"⟩,
  ⟨0x1D77A, "λ μ ν ξ ο π ρ ς σ τ υ φ χ ψ ω ∂ ε θ κ φ ρ π Α Β Γ Δ Ε Ζ Η Θ Ι Κ Λ Μ Ν"⟩,
  ⟨0x1D79D, "Ξ Ο Π Ρ Θ Σ Τ Υ Φ Χ Ψ Ω ∇ α β γ δ ε ζ η θ ι κ λ μ ν ξ ο π ρ ς σ τ υ φ"⟩,
  ⟨0x1D7C0, "χ ψ ω ∂ ε θ κ φ ρ π"⟩,
  ⟨0x1D7CE, "0 1 2 3 4 5 6 7 8 9 0 1 2 3 4 5 6 7 8 9 0 1 2 3 4 5 6 7 8 9 0 1 2 3 4"⟩,
  ⟨0x1D7F1, "5 6 7 8 9 0 1 2 3 4 5 6 7 8 9"⟩,
  ⟨0x2F800, "丽 丸 乁 𠄢 你 侮 侻 倂 偺 備 僧 像 㒞 𠘺 免 兔 兤 具 𠔜 㒹 內 再 𠕋 冗 冤 仌 冬 况 𩇟 凵 刃 㓟 刻 剆 割"⟩,
  ⟨0x2F823, "剷 㔕 勇 勉 勤 勺 包 匆 北 卉 卑 博 即 卽 卿 卿 卿 𠨬 灰 及 叟 𠭣 叫 叱 吆 咞 吸 呈 周 咢 哶 唐 啓 啣 善"⟩,
  ⟨0x2F846, "善 喙 喫 喳 嗂 圖 嘆 圗 噑 噴 切 壮 城 埴 堍 型 堲 報 墬 𡓤 売 壷 夆 多 夢 奢 𡚨 𡛪 姬 娛 娧 姘 婦 㛮 𡍪"⟩,
  ⟨0x2F869, "嬈 嬾 嬾 𡧈 寃 寘 寧 寳 𡬘 寿 将 弳 尢 㞁 屠 屮 峀 岍 𡷤 嵃 𡷦 嵮 嵫 嵼 巡 巢 㠯 巽 帨 帽 幩 㡢 𢆃 㡼 庰"⟩,
  ⟨0x2F88C, "庳 庶 廊 𪎒 廾 𢌱 𢌱 舁 弢 弢 㣇 𣊸 𦇚 形 彫 㣣 徚 忍 志 忹 悁 㤺 㤜 悔 𢛔 惇 慈 慌 慎 慌 慺 憎 憲 憤 憯"⟩,
  ⟨0x2F8AF, "懞 懲 懶 成 戛 扝 抱 拔 捐 𢬌 挽 拼 捨 掃 揤 𢯱 搢 揅 掩 㨮 摩 摾 撝 摷 㩬 敏 敬 𣀊 旣 書 晉 㬙 暑 㬈 㫤"⟩,
  ⟨0x2F8D2, "冒 冕 最 暜 肭 䏙 朗 望 朡 杞 杓 𣏃 㭉 柺 枅 桒 梅 𣑭 梎 栟 椔 㮝 楂 榣 槪 檨 𣚣 櫛 㰘 次 𣢧 歔 㱎 歲 殟"⟩,
  ⟨0x2F8F5, "殺 殻 𣪍 𡴋 𣫺 汎 𣲼 沿 泍 汧 洖 派 海 流 浩 浸 涅 𣴞 洴 港 湮 㴳 滋 滇 𣻑 淹 潮 𣽞 𣾎 濆 瀹 瀞 瀛 㶖 灊"⟩,
  ⟨0x2F918, "災 灷 炭 𠔥 煅 𤉣 熜 䎫 爨 爵 牐 𤘈 犀 犕 𤜵 𤠔 獺 王 㺬 玥 㺸 㺸 瑇 瑜 瑱 璅 瓊 㼛 甤 𤰶 甾 𤲒 異 𢆟 瘐"⟩,
  ⟨0x2F93B, "𤾡 𤾸 𥁄 㿼 䀈 直 𥃳 𥃲 𥄙 𥄳 眞 真 真 睊 䀹 瞋 䁆 䂖 𥐝 硎 碌 磌 䃣 𥘦 祖 𥚚 𥛅 福 秫 䄯 穀 穊 穏 𥥼 𥪧"⟩,
  ⟨0x2F95E, "𥪧 窮 䈂 𥮫 篆 築 䈧 𥲀 糒 䊠 糨 糣 紀 𥾆 絣 䌁 緇 縂 繅 䌴 𦈨 𦉇 䍙 𦋙 罺 𦌾 羕 翺 者 𦓚 𦔣 聠 𦖨 聰 𣍟"⟩,
  ⟨0x2F981, "䏕 育 脃 䐋 脾 媵 𦞧 𦞵 𣎓 𣎜 舁 舄 辞 䑫 芑 芋 芝 劳 花 芳 芽 苦 𦬼 若 茝 荣 莭 茣 莽 菧 著 荓 菊 菌 菜"⟩,
  ⟨0x2F9A4, "𦰶 𦵫 𦳕 䔫 蓱 蓳 蔖 𧏊 蕤 𦼬 䕝 䕡 𦾱 𧃒 䕫 虐 虜 虧 虩 蚩 蚈 蜎 蛢 蝹 蜨 蝫 螆 䵗 蟡 蠁 䗹 衠 衣 𧙧 裗"⟩,
  ⟨0x2F9C7, "裞 䘵 裺 㒻 𧢮 𧥦 䚾 䛇 誠 諭 變 豕 𧲨 貫 賁 贛 起 𧼯 𠠄 跋 趼 跰 𠣞 軔 輸 𨗒 𨗭 邔 郱 鄑 𨜮 鄛 鈸 鋗 鋘"⟩,
  ⟨0x2F9EA, "鉼 鏹 鐕 𨯺 開 䦕 閷 𨵷 䧦 雃 嶲 霣 𩅅 𩈚 䩮 䩶 韠 𩐊 䪲 𩒖 頋 頋 頩 𩖶 飢 䬳 餩 馧 駂 駾 䯎 𩬰 鬒 鱀 鳽"⟩,
  ⟨0x2FA0D, "䳎 䳭 鵧 𪃎 䳸 𪄅 𪈎 𪊑 麻 䵖 黹 黾 鼅 鼏 鼖 鼻 𪘀"⟩]

/-- The characters that are composed of another one and a mark. -/
def markRuns : List MarkRun := [
  ⟨0x300, "AEINOUWYaeinouwy¨ÂÊÔÜâêô", "ÀÈÌǸÒÙẀỲàèìǹòùẁỳ῭ẦỀỒǛầềồ"⟩,
  ⟨0x300, "üĂăĒēŌōƠơƯưΑΕΗΙΟΥΩαεηιου", "ǜẰằḔḕṐṑỜờỪừᾺῈῊῚῸῪῺὰὲὴὶὸὺ"⟩,
  ⟨0x300, "ωϊϋЕИеиἀἁἈἉἐἑἘἙἠἡἨἩἰἱἸἹὀ", "ὼῒῢЀЍѐѝἂἃἊἋἒἓἚἛἢἣἪἫἲἳἺἻὂ"⟩,
  ⟨0x300, "ὁὈὉὐὑὙὠὡὨὩ᾿῾", "ὃὊὋὒὓὛὢὣὪὫ῍῝"⟩,
  ⟨0x301, "ACEGIKLMNOPRSUWYZacegikl", "ÁĆÉǴÍḰĹḾŃÓṔŔŚÚẂÝŹáćéǵíḱĺ"⟩,
  ⟨0x301, "mnoprsuwyz¨ÂÅÆÇÊÏÔÕØÜâåæ", "ḿńóṕŕśúẃýź΅ẤǺǼḈẾḮỐṌǾǗấǻǽ"⟩,
  ⟨0x301, "çêïôõøüĂăĒēŌōŨũƠơƯưΑΕΗΙΟ", "ḉếḯốṍǿǘẮắḖḗṒṓṸṹỚớỨứΆΈΉΊΌ"⟩,
  ⟨0x301, "ΥΩαεηιουωϊϋϒГКгкἀἁἈἉἐἑἘἙ", "ΎΏάέήίόύώΐΰϓЃЌѓќἄἅἌἍἔἕἜἝ"⟩,
  ⟨0x301, "ἠἡἨἩἰἱἸἹὀὁὈὉὐὑὙὠὡὨὩ᾿῾", "ἤἥἬἭἴἵἼἽὄὅὌὍὔὕὝὤὥὬὭ῎῞"⟩,
  ⟨0x302, "ACEGHIJOSUWYZaceghijosuw", "ÂĈÊĜĤÎĴÔŜÛŴŶẐâĉêĝĥîĵôŝûŵ"⟩, ⟨0x302, "yzẠạẸẹỌọ", "ŷẑẬậỆệỘộ"⟩,
  ⟨0x303, "AEINOUVYaeinouvyÂÊÔâêôĂă", "ÃẼĨÑÕŨṼỸãẽĩñõũṽỹẪỄỖẫễỗẴẵ"⟩, ⟨0x303, "ƠơƯư", "ỠỡỮữ"⟩,
  ⟨0x304, "AEGIOUYaegiouyÄÆÕÖÜäæõöü", "ĀĒḠĪŌŪȲāēḡīōūȳǞǢȬȪǕǟǣȭȫǖ"⟩,
  ⟨0x304, "ǪǫȦȧȮȯΑΙΥαιυИУиуḶḷṚṛ", "ǬǭǠǡȰȱᾹῙῩᾱῑῡӢӮӣӯḸḹṜṝ"⟩,
  ⟨0x306, "AEGIOUaegiouȨȩΑΙΥαιυАЕЖИ", "ĂĔĞĬŎŬăĕğĭŏŭḜḝᾸῘῨᾰῐῠӐӖӁЙ"⟩, ⟨0x306, "УаежиуẠạ", "ЎӑӗӂйўẶặ"⟩,
  ⟨0x307, "ABCDEFGHIMNOPRSTWXYZabcd", "ȦḂĊḊĖḞĠḢİṀṄȮṖṘṠṪẆẊẎŻȧḃċḋ"⟩,
  ⟨0x307, "efghmnoprstwxyzŚśŠšſṢṣ", "ėḟġḣṁṅȯṗṙṡṫẇẋẏżṤṥṦṧẛṨṩ"⟩,
  ⟨0x308, "AEHIOUWXYaehiotuwxyÕõŪūΙ", "ÄËḦÏÖÜẄẌŸäëḧïöẗüẅẍÿṎṏṺṻΪ"⟩,
  ⟨0x308, "ΥιυϒІАЕЖЗИОУЧЫЭаежзиоучы", "ΫϊϋϔЇӒЁӜӞӤӦӰӴӸӬӓёӝӟӥӧӱӵӹ"⟩, ⟨0x308, "эіӘәӨө", "ӭїӚӛӪӫ"⟩,
  ⟨0x309, "AEIOUYaeiouyÂÊÔâêôĂăƠơƯư", "ẢẺỈỎỦỶảẻỉỏủỷẨỂỔẩểổẲẳỞởỬử"⟩, ⟨0x30A, "AUauwy", "ÅŮåůẘẙ"⟩,
  ⟨0x30B, "OUouУу", "ŐŰőűӲӳ"⟩, ⟨0x30C, "ACDEGHIKLNORSTUZacdeghij", "ǍČĎĚǦȞǏǨĽŇǑŘŠŤǓŽǎčďěǧȟǐǰ"⟩,
  ⟨0x30C, "klnorstuzÜüƷʒ", "ǩľňǒřšťǔžǙǚǮǯ"⟩, ⟨0x30F, "AEIORUaeioruѴѵ", "ȀȄȈȌȐȔȁȅȉȍȑȕѶѷ"⟩,
  ⟨0x311, "AEIORUaeioru", "ȂȆȊȎȒȖȃȇȋȏȓȗ"⟩, ⟨0x313, "ΑΕΗΙΟΩαεηιορυω", "ἈἘἨἸὈὨἀἐἠἰὀῤὐὠ"⟩,
  ⟨0x314, "ΑΕΗΙΟΡΥΩαεηιορυω", "ἉἙἩἹὉῬὙὩἁἑἡἱὁῥὑὡ"⟩, ⟨0x31B, "OUou", "ƠƯơư"⟩,
  ⟨0x323, "ABDEHIKLMNORSTUVWYZabdeh", "ẠḄḌẸḤỊḲḶṂṆỌṚṢṬỤṾẈỴẒạḅḍẹḥ"⟩,
  ⟨0x323, "iklmnorstuvwyzƠơƯư", "ịḳḷṃṇọṛṣṭụṿẉỵẓỢợỰự"⟩, ⟨0x324, "Uu", "Ṳṳ"⟩, ⟨0x325, "Aa", "Ḁḁ"⟩,
  ⟨0x326, "STst", "ȘȚșț"⟩, ⟨0x327, "CDEGHKLNRSTcdeghklnrst", "ÇḐȨĢḨĶĻŅŖŞŢçḑȩģḩķļņŗşţ"⟩,
  ⟨0x328, "AEIOUaeiou", "ĄĘĮǪŲąęįǫų"⟩, ⟨0x32D, "DELNTUdelntu", "ḒḘḼṊṰṶḓḙḽṋṱṷ"⟩, ⟨0x32E, "Hh", "Ḫḫ"⟩,
  ⟨0x330, "EIUeiu", "ḚḬṴḛḭṵ"⟩, ⟨0x331, "BDKLNRTZbdhklnrtz", "ḆḎḴḺṈṞṮẔḇḏẖḵḻṉṟṯẕ"⟩,
  ⟨0x338, "<=>←→↔⇐⇒⇔∃∈∋∣∥∼≃≅≈≍≡≤≥≲≳", "≮≠≯↚↛↮⇍⇏⇎∄∉∌∤∦≁≄≇≉≭≢≰≱≴≵"⟩,
  ⟨0x338, "≶≷≺≻≼≽⊂⊃⊆⊇⊑⊒⊢⊨⊩⊫⊲⊳⊴⊵", "≸≹⊀⊁⋠⋡⊄⊅⊈⊉⋢⋣⊬⊭⊮⊯⋪⋫⋬⋭"⟩,
  ⟨0x342, "¨αηιυωϊϋἀἁἈἉἠἡἨἩἰἱἸἹὐὑὙὠ", "῁ᾶῆῖῦῶῗῧἆἇἎἏἦἧἮἯἶἷἾἿὖὗὟὦ"⟩, ⟨0x342, "ὡὨὩ᾿῾", "ὧὮὯ῏῟"⟩,
  ⟨0x345, "ΑΗΩάήαηωώἀἁἂἃἄἅἆἇἈἉἊἋἌἍἎ", "ᾼῌῼᾴῄᾳῃῳῴᾀᾁᾂᾃᾄᾅᾆᾇᾈᾉᾊᾋᾌᾍᾎ"⟩,
  ⟨0x345, "ἏἠἡἢἣἤἥἦἧἨἩἪἫἬἭἮἯὠὡὢὣὤὥὦ", "ᾏᾐᾑᾒᾓᾔᾕᾖᾗᾘᾙᾚᾛᾜᾝᾞᾟᾠᾡᾢᾣᾤᾥᾦ"⟩,
  ⟨0x345, "ὧὨὩὪὫὬὭὮὯὰὴὼᾶῆῶ", "ᾧᾨᾩᾪᾫᾬᾭᾮᾯᾲῂῲᾷῇῷ"⟩, ⟨0x653, "\u0627", "\u0622"⟩,
  ⟨0x654, "\u0627\u0648\u064a\u06c1\u06d2\u06d5", "\u0623\u0624\u0626\u06c2\u06d3\u06c0"⟩,
  ⟨0x655, "\u0627", "\u0625"⟩, ⟨0x93C, "नरळ", "ऩऱऴ"⟩, ⟨0x9BE, "\u09c7", "\u09cb"⟩,
  ⟨0x9D7, "\u09c7", "\u09cc"⟩, ⟨0xB3E, "\u0b47", "\u0b4b"⟩, ⟨0xB56, "\u0b47", "\u0b48"⟩,
  ⟨0xB57, "\u0b47", "\u0b4c"⟩, ⟨0xBBE, "\u0bc6\u0bc7", "\u0bca\u0bcb"⟩,
  ⟨0xBD7, "ஒ\u0bc6", "ஔ\u0bcc"⟩, ⟨0xC56, "\u0c46", "\u0c48"⟩, ⟨0xCC2, "\u0cc6", "\u0cca"⟩,
  ⟨0xCD5, "\u0cbf\u0cc6\u0cca", "\u0cc0\u0cc7\u0ccb"⟩, ⟨0xCD6, "\u0cc6", "\u0cc8"⟩,
  ⟨0xD3E, "\u0d46\u0d47", "\u0d4a\u0d4b"⟩, ⟨0xD57, "\u0d46", "\u0d4c"⟩,
  ⟨0xDCA, "\u0dd9\u0ddc", "\u0dda\u0ddd"⟩, ⟨0xDCF, "\u0dd9", "\u0ddc"⟩, ⟨0xDDF, "\u0dd9", "\u0dde"⟩,
  ⟨0x102E, "ဥ", "ဦ"⟩, ⟨0x1B35, "ᬅᬇᬉᬋᬍᬑ\u1b3a", "ᬆᬈᬊᬌᬎᬒ\u1b3b"⟩,
  ⟨0x1B35, "\u1b3c\u1b3e\u1b3f\u1b42", "\u1b3d\u1b40\u1b41\u1b43"⟩,
  ⟨0x3099, "うかきくけこさしすせそたちつてとはひふへほゝウカ", "ゔがぎぐげござじずぜぞだぢづでどばびぶべぼゞヴガ"⟩,
  ⟨0x3099, "キクケコサシスセソタチツテトハヒフヘホワヰヱヲヽ", "ギグゲゴザジズゼゾダヂヅデドバビブベボヷヸヹヺヾ"⟩,
  ⟨0x309A, "はひふへほハヒフヘホ", "ぱぴぷぺぽパピプペポ"⟩, ⟨0x110BA, "𑂙𑂛𑂥", "𑂚𑂜𑂫"⟩, ⟨0x11127, "𑄱𑄲", "𑄮𑄯"⟩,
  ⟨0x1133E, "𑍇", "𑍋"⟩, ⟨0x11357, "𑍇", "𑍌"⟩, ⟨0x114B0, "𑒹", "𑒼"⟩, ⟨0x114BA, "𑒹", "𑒻"⟩,
  ⟨0x114BD, "𑒹", "𑒾"⟩, ⟨0x115AF, "𑖸𑖹", "𑖺𑖻"⟩, ⟨0x11930, "𑤵", "𑤸"⟩]

/-- Ranges of marks, each with its class. -/
def markClasses : List (Nat × Nat × Nat) := [
  (0x300, 0x314, 230), (0x315, 0x315, 232), (0x316, 0x319, 220), (0x31A, 0x31A, 232),
  (0x31B, 0x31B, 216), (0x31C, 0x320, 220), (0x321, 0x322, 202), (0x323, 0x326, 220),
  (0x327, 0x328, 202), (0x329, 0x333, 220), (0x334, 0x338, 1), (0x339, 0x33C, 220),
  (0x33D, 0x344, 230), (0x345, 0x345, 240), (0x346, 0x346, 230), (0x347, 0x349, 220),
  (0x34A, 0x34C, 230), (0x34D, 0x34E, 220), (0x350, 0x352, 230), (0x353, 0x356, 220),
  (0x357, 0x357, 230), (0x358, 0x358, 232), (0x359, 0x35A, 220), (0x35B, 0x35B, 230),
  (0x35C, 0x35C, 233), (0x35D, 0x35E, 234), (0x35F, 0x35F, 233), (0x360, 0x361, 234),
  (0x362, 0x362, 233), (0x363, 0x36F, 230), (0x483, 0x487, 230), (0x591, 0x591, 220),
  (0x592, 0x595, 230), (0x596, 0x596, 220), (0x597, 0x599, 230), (0x59A, 0x59A, 222),
  (0x59B, 0x59B, 220), (0x59C, 0x5A1, 230), (0x5A2, 0x5A7, 220), (0x5A8, 0x5A9, 230),
  (0x5AA, 0x5AA, 220), (0x5AB, 0x5AC, 230), (0x5AD, 0x5AD, 222), (0x5AE, 0x5AE, 228),
  (0x5AF, 0x5AF, 230), (0x5B0, 0x5B0, 10), (0x5B1, 0x5B1, 11), (0x5B2, 0x5B2, 12),
  (0x5B3, 0x5B3, 13), (0x5B4, 0x5B4, 14), (0x5B5, 0x5B5, 15), (0x5B6, 0x5B6, 16),
  (0x5B7, 0x5B7, 17), (0x5B8, 0x5B8, 18), (0x5B9, 0x5BA, 19), (0x5BB, 0x5BB, 20),
  (0x5BC, 0x5BC, 21), (0x5BD, 0x5BD, 22), (0x5BF, 0x5BF, 23), (0x5C1, 0x5C1, 24),
  (0x5C2, 0x5C2, 25), (0x5C4, 0x5C4, 230), (0x5C5, 0x5C5, 220), (0x5C7, 0x5C7, 18),
  (0x610, 0x617, 230), (0x618, 0x618, 30), (0x619, 0x619, 31), (0x61A, 0x61A, 32),
  (0x64B, 0x64B, 27), (0x64C, 0x64C, 28), (0x64D, 0x64D, 29), (0x64E, 0x64E, 30),
  (0x64F, 0x64F, 31), (0x650, 0x650, 32), (0x651, 0x651, 33), (0x652, 0x652, 34),
  (0x653, 0x654, 230), (0x655, 0x656, 220), (0x657, 0x65B, 230), (0x65C, 0x65C, 220),
  (0x65D, 0x65E, 230), (0x65F, 0x65F, 220), (0x670, 0x670, 35), (0x6D6, 0x6DC, 230),
  (0x6DF, 0x6E2, 230), (0x6E3, 0x6E3, 220), (0x6E4, 0x6E4, 230), (0x6E7, 0x6E8, 230),
  (0x6EA, 0x6EA, 220), (0x6EB, 0x6EC, 230), (0x6ED, 0x6ED, 220), (0x711, 0x711, 36),
  (0x730, 0x730, 230), (0x731, 0x731, 220), (0x732, 0x733, 230), (0x734, 0x734, 220),
  (0x735, 0x736, 230), (0x737, 0x739, 220), (0x73A, 0x73A, 230), (0x73B, 0x73C, 220),
  (0x73D, 0x73D, 230), (0x73E, 0x73E, 220), (0x73F, 0x741, 230), (0x742, 0x742, 220),
  (0x743, 0x743, 230), (0x744, 0x744, 220), (0x745, 0x745, 230), (0x746, 0x746, 220),
  (0x747, 0x747, 230), (0x748, 0x748, 220), (0x749, 0x74A, 230), (0x7EB, 0x7F1, 230),
  (0x7F2, 0x7F2, 220), (0x7F3, 0x7F3, 230), (0x7FD, 0x7FD, 220), (0x816, 0x819, 230),
  (0x81B, 0x823, 230), (0x825, 0x827, 230), (0x829, 0x82D, 230), (0x859, 0x85B, 220),
  (0x898, 0x898, 230), (0x899, 0x89B, 220), (0x89C, 0x89F, 230), (0x8CA, 0x8CE, 230),
  (0x8CF, 0x8D3, 220), (0x8D4, 0x8E1, 230), (0x8E3, 0x8E3, 220), (0x8E4, 0x8E5, 230),
  (0x8E6, 0x8E6, 220), (0x8E7, 0x8E8, 230), (0x8E9, 0x8E9, 220), (0x8EA, 0x8EC, 230),
  (0x8ED, 0x8EF, 220), (0x8F0, 0x8F0, 27), (0x8F1, 0x8F1, 28), (0x8F2, 0x8F2, 29),
  (0x8F3, 0x8F5, 230), (0x8F6, 0x8F6, 220), (0x8F7, 0x8F8, 230), (0x8F9, 0x8FA, 220),
  (0x8FB, 0x8FF, 230), (0x93C, 0x93C, 7), (0x94D, 0x94D, 9), (0x951, 0x951, 230),
  (0x952, 0x952, 220), (0x953, 0x954, 230), (0x9BC, 0x9BC, 7), (0x9CD, 0x9CD, 9),
  (0x9FE, 0x9FE, 230), (0xA3C, 0xA3C, 7), (0xA4D, 0xA4D, 9), (0xABC, 0xABC, 7), (0xACD, 0xACD, 9),
  (0xB3C, 0xB3C, 7), (0xB4D, 0xB4D, 9), (0xBCD, 0xBCD, 9), (0xC3C, 0xC3C, 7), (0xC4D, 0xC4D, 9),
  (0xC55, 0xC55, 84), (0xC56, 0xC56, 91), (0xCBC, 0xCBC, 7), (0xCCD, 0xCCD, 9), (0xD3B, 0xD3C, 9),
  (0xD4D, 0xD4D, 9), (0xDCA, 0xDCA, 9), (0xE38, 0xE39, 103), (0xE3A, 0xE3A, 9), (0xE48, 0xE4B, 107),
  (0xEB8, 0xEB9, 118), (0xEBA, 0xEBA, 9), (0xEC8, 0xECB, 122), (0xF18, 0xF19, 220),
  (0xF35, 0xF35, 220), (0xF37, 0xF37, 220), (0xF39, 0xF39, 216), (0xF71, 0xF71, 129),
  (0xF72, 0xF72, 130), (0xF74, 0xF74, 132), (0xF7A, 0xF7D, 130), (0xF80, 0xF80, 130),
  (0xF82, 0xF83, 230), (0xF84, 0xF84, 9), (0xF86, 0xF87, 230), (0xFC6, 0xFC6, 220),
  (0x1037, 0x1037, 7), (0x1039, 0x103A, 9), (0x108D, 0x108D, 220), (0x135D, 0x135F, 230),
  (0x1714, 0x1715, 9), (0x1734, 0x1734, 9), (0x17D2, 0x17D2, 9), (0x17DD, 0x17DD, 230),
  (0x18A9, 0x18A9, 228), (0x1939, 0x1939, 222), (0x193A, 0x193A, 230), (0x193B, 0x193B, 220),
  (0x1A17, 0x1A17, 230), (0x1A18, 0x1A18, 220), (0x1A60, 0x1A60, 9), (0x1A75, 0x1A7C, 230),
  (0x1A7F, 0x1A7F, 220), (0x1AB0, 0x1AB4, 230), (0x1AB5, 0x1ABA, 220), (0x1ABB, 0x1ABC, 230),
  (0x1ABD, 0x1ABD, 220), (0x1ABF, 0x1AC0, 220), (0x1AC1, 0x1AC2, 230), (0x1AC3, 0x1AC4, 220),
  (0x1AC5, 0x1AC9, 230), (0x1ACA, 0x1ACA, 220), (0x1ACB, 0x1ACE, 230), (0x1B34, 0x1B34, 7),
  (0x1B44, 0x1B44, 9), (0x1B6B, 0x1B6B, 230), (0x1B6C, 0x1B6C, 220), (0x1B6D, 0x1B73, 230),
  (0x1BAA, 0x1BAB, 9), (0x1BE6, 0x1BE6, 7), (0x1BF2, 0x1BF3, 9), (0x1C37, 0x1C37, 7),
  (0x1CD0, 0x1CD2, 230), (0x1CD4, 0x1CD4, 1), (0x1CD5, 0x1CD9, 220), (0x1CDA, 0x1CDB, 230),
  (0x1CDC, 0x1CDF, 220), (0x1CE0, 0x1CE0, 230), (0x1CE2, 0x1CE8, 1), (0x1CED, 0x1CED, 220),
  (0x1CF4, 0x1CF4, 230), (0x1CF8, 0x1CF9, 230), (0x1DC0, 0x1DC1, 230), (0x1DC2, 0x1DC2, 220),
  (0x1DC3, 0x1DC9, 230), (0x1DCA, 0x1DCA, 220), (0x1DCB, 0x1DCC, 230), (0x1DCD, 0x1DCD, 234),
  (0x1DCE, 0x1DCE, 214), (0x1DCF, 0x1DCF, 220), (0x1DD0, 0x1DD0, 202), (0x1DD1, 0x1DF5, 230),
  (0x1DF6, 0x1DF6, 232), (0x1DF7, 0x1DF8, 228), (0x1DF9, 0x1DF9, 220), (0x1DFA, 0x1DFA, 218),
  (0x1DFB, 0x1DFB, 230), (0x1DFC, 0x1DFC, 233), (0x1DFD, 0x1DFD, 220), (0x1DFE, 0x1DFE, 230),
  (0x1DFF, 0x1DFF, 220), (0x20D0, 0x20D1, 230), (0x20D2, 0x20D3, 1), (0x20D4, 0x20D7, 230),
  (0x20D8, 0x20DA, 1), (0x20DB, 0x20DC, 230), (0x20E1, 0x20E1, 230), (0x20E5, 0x20E6, 1),
  (0x20E7, 0x20E7, 230), (0x20E8, 0x20E8, 220), (0x20E9, 0x20E9, 230), (0x20EA, 0x20EB, 1),
  (0x20EC, 0x20EF, 220), (0x20F0, 0x20F0, 230), (0x2CEF, 0x2CF1, 230), (0x2D7F, 0x2D7F, 9),
  (0x2DE0, 0x2DFF, 230), (0x302A, 0x302A, 218), (0x302B, 0x302B, 228), (0x302C, 0x302C, 232),
  (0x302D, 0x302D, 222), (0x302E, 0x302F, 224), (0x3099, 0x309A, 8), (0xA66F, 0xA66F, 230),
  (0xA674, 0xA67D, 230), (0xA69E, 0xA69F, 230), (0xA6F0, 0xA6F1, 230), (0xA806, 0xA806, 9),
  (0xA82C, 0xA82C, 9), (0xA8C4, 0xA8C4, 9), (0xA8E0, 0xA8F1, 230), (0xA92B, 0xA92D, 220),
  (0xA953, 0xA953, 9), (0xA9B3, 0xA9B3, 7), (0xA9C0, 0xA9C0, 9), (0xAAB0, 0xAAB0, 230),
  (0xAAB2, 0xAAB3, 230), (0xAAB4, 0xAAB4, 220), (0xAAB7, 0xAAB8, 230), (0xAABE, 0xAABF, 230),
  (0xAAC1, 0xAAC1, 230), (0xAAF6, 0xAAF6, 9), (0xABED, 0xABED, 9), (0xFB1E, 0xFB1E, 26),
  (0xFE20, 0xFE26, 230), (0xFE27, 0xFE2D, 220), (0xFE2E, 0xFE2F, 230), (0x101FD, 0x101FD, 220),
  (0x102E0, 0x102E0, 220), (0x10376, 0x1037A, 230), (0x10A0D, 0x10A0D, 220),
  (0x10A0F, 0x10A0F, 230), (0x10A38, 0x10A38, 230), (0x10A39, 0x10A39, 1), (0x10A3A, 0x10A3A, 220),
  (0x10A3F, 0x10A3F, 9), (0x10AE5, 0x10AE5, 230), (0x10AE6, 0x10AE6, 220), (0x10D24, 0x10D27, 230),
  (0x10EAB, 0x10EAC, 230), (0x10F46, 0x10F47, 220), (0x10F48, 0x10F4A, 230),
  (0x10F4B, 0x10F4B, 220), (0x10F4C, 0x10F4C, 230), (0x10F4D, 0x10F50, 220),
  (0x10F82, 0x10F82, 230), (0x10F83, 0x10F83, 220), (0x10F84, 0x10F84, 230),
  (0x10F85, 0x10F85, 220), (0x11046, 0x11046, 9), (0x11070, 0x11070, 9), (0x1107F, 0x1107F, 9),
  (0x110B9, 0x110B9, 9), (0x110BA, 0x110BA, 7), (0x11100, 0x11102, 230), (0x11133, 0x11134, 9),
  (0x11173, 0x11173, 7), (0x111C0, 0x111C0, 9), (0x111CA, 0x111CA, 7), (0x11235, 0x11235, 9),
  (0x11236, 0x11236, 7), (0x112E9, 0x112E9, 7), (0x112EA, 0x112EA, 9), (0x1133B, 0x1133C, 7),
  (0x1134D, 0x1134D, 9), (0x11366, 0x1136C, 230), (0x11370, 0x11374, 230), (0x11442, 0x11442, 9),
  (0x11446, 0x11446, 7), (0x1145E, 0x1145E, 230), (0x114C2, 0x114C2, 9), (0x114C3, 0x114C3, 7),
  (0x115BF, 0x115BF, 9), (0x115C0, 0x115C0, 7), (0x1163F, 0x1163F, 9), (0x116B6, 0x116B6, 9),
  (0x116B7, 0x116B7, 7), (0x1172B, 0x1172B, 9), (0x11839, 0x11839, 9), (0x1183A, 0x1183A, 7),
  (0x1193D, 0x1193E, 9), (0x11943, 0x11943, 7), (0x119E0, 0x119E0, 9), (0x11A34, 0x11A34, 9),
  (0x11A47, 0x11A47, 9), (0x11A99, 0x11A99, 9), (0x11C3F, 0x11C3F, 9), (0x11D42, 0x11D42, 7),
  (0x11D44, 0x11D45, 9), (0x11D97, 0x11D97, 9), (0x16AF0, 0x16AF4, 1), (0x16B30, 0x16B36, 230),
  (0x16FF0, 0x16FF1, 6), (0x1BC9E, 0x1BC9E, 1), (0x1D165, 0x1D166, 216), (0x1D167, 0x1D169, 1),
  (0x1D16D, 0x1D16D, 226), (0x1D16E, 0x1D172, 216), (0x1D17B, 0x1D182, 220),
  (0x1D185, 0x1D189, 230), (0x1D18A, 0x1D18B, 220), (0x1D1AA, 0x1D1AD, 230),
  (0x1D242, 0x1D244, 230), (0x1E000, 0x1E006, 230), (0x1E008, 0x1E018, 230),
  (0x1E01B, 0x1E021, 230), (0x1E023, 0x1E024, 230), (0x1E026, 0x1E02A, 230),
  (0x1E130, 0x1E136, 230), (0x1E2AE, 0x1E2AE, 230), (0x1E2EC, 0x1E2EF, 230),
  (0x1E8D0, 0x1E8D6, 220), (0x1E944, 0x1E949, 230), (0x1E94A, 0x1E94A, 7)]

end Postprocessor.Text.Normal
