/-!
The emoji codes the console knows: the name of each and the characters it stands for, one entry
a line, name and characters separated by a tab. Names are lower case; a few hold letters beyond
ASCII. Flags of countries and regions are written as their pairs of regional indicators, and
sequences joined by zero-width joiners keep their joiners and variation selectors.
-/

namespace GinSave.Console

/-- The table of emoji codes, as text: one entry a line, each line indented by two blanks and
holding a name, a tab and the characters. -/
def emojiEntries : String :=
  "1st_place_medal\t🥇
  2nd_place_medal\t🥈
  3rd_place_medal\t🥉
  ab_button_(blood_type)\t🆎
  atm_sign\t🏧
  a_button_(blood_type)\t🅰
  afghanistan\t🇦🇫
  albania\t🇦🇱
  algeria\t🇩🇿
  american_samoa\t🇦🇸
  andorra\t🇦🇩
  angola\t🇦🇴
  anguilla\t🇦🇮
  antarctica\t🇦🇶
  antigua_&_barbuda\t🇦🇬
  aquarius\t♒
  argentina\t🇦🇷
  aries\t♈
  armenia\t🇦🇲
  aruba\t🇦🇼
  ascension_island\t🇦🇨
  australia\t🇦🇺
  austria\t🇦🇹
  azerbaijan\t🇦🇿
  back_arrow\t🔙
  b_button_(blood_type)\t🅱
  bahamas\t🇧🇸
  bahrain\t🇧🇭
  bangladesh\t🇧🇩
  barbados\t🇧🇧
  belarus\t🇧🇾
  belgium\t🇧🇪
  belize\t🇧🇿
  benin\t🇧🇯
  bermuda\t🇧🇲
  bhutan\t🇧🇹
  bolivia\t🇧🇴
  bosnia_&_herzegovina\t🇧🇦
  botswana\t🇧🇼
  bouvet_island\t🇧🇻
  brazil\t🇧🇷
  british_indian_ocean_territory\t🇮🇴
  british_virgin_islands\t🇻🇬
  brunei\t🇧🇳
  bulgaria\t🇧🇬
  burkina_faso\t🇧🇫
  burundi\t🇧🇮
  cl_button\t🆑
  cool_button\t🆒
  cambodia\t🇰🇭
  cameroon\t🇨🇲
  canada\t🇨🇦
  canary_islands\t🇮🇨
  cancer\t♋
  cape_verde\t🇨🇻
  capricorn\t♑
  caribbean_netherlands\t🇧🇶
  cayman_islands\t🇰🇾
  central_african_republic\t🇨🇫
  ceuta_&_melilla\t🇪🇦
  chad\t🇹🇩
  chile\t🇨🇱
  china\t🇨🇳
  christmas_island\t🇨🇽
  christmas_tree\t🎄
  clipperton_island\t🇨🇵
  cocos_(keeling)_islands\t🇨🇨
  colombia\t🇨🇴
  comoros\t🇰🇲
  congo_-_brazzaville\t🇨🇬
  congo_-_kinshasa\t🇨🇩
  cook_islands\t🇨🇰
  costa_rica\t🇨🇷
  croatia\t🇭🇷
  cuba\t🇨🇺
  curaçao\t🇨🇼
  cyprus\t🇨🇾
  czechia\t🇨🇿
  côte_d’ivoire\t🇨🇮
  denmark\t🇩🇰
  diego_garcia\t🇩🇬
  djibouti\t🇩🇯
  dominica\t🇩🇲
  dominican_republic\t🇩🇴
  end_arrow\t🔚
  ecuador\t🇪🇨
  egypt\t🇪🇬
  el_salvador\t🇸🇻
  england\t🏴󠁧󠁢󠁥󠁮󠁧󠁿
  equatorial_guinea\t🇬🇶
  eritrea\t🇪🇷
  estonia\t🇪🇪
  ethiopia\t🇪🇹
  european_union\t🇪🇺
  free_button\t🆓
  falkland_islands\t🇫🇰
  faroe_islands\t🇫🇴
  fiji\t🇫🇯
  finland\t🇫🇮
  france\t🇫🇷
  french_guiana\t🇬🇫
  french_polynesia\t🇵🇫
  french_southern_territories\t🇹🇫
  gabon\t🇬🇦
  gambia\t🇬🇲
  gemini\t♊
  georgia\t🇬🇪
  germany\t🇩🇪
  ghana\t🇬🇭
  gibraltar\t🇬🇮
  greece\t🇬🇷
  greenland\t🇬🇱
  grenada\t🇬🇩
  guadeloupe\t🇬🇵
  guam\t🇬🇺
  guatemala\t🇬🇹
  guernsey\t🇬🇬
  guinea\t🇬🇳
  guinea-bissau\t🇬🇼
  guyana\t🇬🇾
  haiti\t🇭🇹
  heard_&_mcdonald_islands\t🇭🇲
  honduras\t🇭🇳
  hong_kong_sar_china\t🇭🇰
  hungary\t🇭🇺
  id_button\t🆔
  iceland\t🇮🇸
  india\t🇮🇳
  indonesia\t🇮🇩
  iran\t🇮🇷
  iraq\t🇮🇶
  ireland\t🇮🇪
  isle_of_man\t🇮🇲
  israel\t🇮🇱
  italy\t🇮🇹
  jamaica\t🇯🇲
  japan\t🗾
  japanese_acceptable_button\t🉑
  japanese_application_button\t🈸
  japanese_bargain_button\t🉐
  japanese_castle\t🏯
  japanese_congratulations_button\t㊗
  japanese_discount_button\t🈹
  japanese_dolls\t🎎
  japanese_free_of_charge_button\t🈚
  japanese_here_button\t🈁
  japanese_monthly_amount_button\t🈷
  japanese_no_vacancy_button\t🈵
  japanese_not_free_of_charge_button\t🈶
  japanese_open_for_business_button\t🈺
  japanese_passing_grade_button\t🈴
  japanese_post_office\t🏣
  japanese_prohibited_button\t🈲
  japanese_reserved_button\t🈯
  japanese_secret_button\t㊙
  japanese_service_charge_button\t🈂
  japanese_symbol_for_beginner\t🔰
  japanese_vacancy_button\t🈳
  jersey\t🇯🇪
  jordan\t🇯🇴
  kazakhstan\t🇰🇿
  kenya\t🇰🇪
  kiribati\t🇰🇮
  kosovo\t🇽🇰
  kuwait\t🇰🇼
  kyrgyzstan\t🇰🇬
  laos\t🇱🇦
  latvia\t🇱🇻
  lebanon\t🇱🇧
  leo\t♌
  lesotho\t🇱🇸
  liberia\t🇱🇷
  libra\t♎
  libya\t🇱🇾
  liechtenstein\t🇱🇮
  lithuania\t🇱🇹
  luxembourg\t🇱🇺
  macau_sar_china\t🇲🇴
  macedonia\t🇲🇰
  madagascar\t🇲🇬
  malawi\t🇲🇼
  malaysia\t🇲🇾
  maldives\t🇲🇻
  mali\t🇲🇱
  malta\t🇲🇹
  marshall_islands\t🇲🇭
  martinique\t🇲🇶
  mauritania\t🇲🇷
  mauritius\t🇲🇺
  mayotte\t🇾🇹
  mexico\t🇲🇽
  micronesia\t🇫🇲
  moldova\t🇲🇩
  monaco\t🇲🇨
  mongolia\t🇲🇳
  montenegro\t🇲🇪
  montserrat\t🇲🇸
  morocco\t🇲🇦
  mozambique\t🇲🇿
  mrs._claus\t🤶
  mrs._claus_dark_skin_tone\t🤶🏿
  mrs._claus_light_skin_tone\t🤶🏻
  mrs._claus_medium-dark_skin_tone\t🤶🏾
  mrs._claus_medium-light_skin_tone\t🤶🏼
  mrs._claus_medium_skin_tone\t🤶🏽
  myanmar_(burma)\t🇲🇲
  new_button\t🆕
  ng_button\t🆖
  namibia\t🇳🇦
  nauru\t🇳🇷
  nepal\t🇳🇵
  netherlands\t🇳🇱
  new_caledonia\t🇳🇨
  new_zealand\t🇳🇿
  nicaragua\t🇳🇮
  niger\t🇳🇪
  nigeria\t🇳🇬
  niue\t🇳🇺
  norfolk_island\t🇳🇫
  north_korea\t🇰🇵
  northern_mariana_islands\t🇲🇵
  norway\t🇳🇴
  ok_button\t🆗
  ok_hand\t👌
  ok_hand_dark_skin_tone\t👌🏿
  ok_hand_light_skin_tone\t👌🏻
  ok_hand_medium-dark_skin_tone\t👌🏾
  ok_hand_medium-light_skin_tone\t👌🏼
  ok_hand_medium_skin_tone\t👌🏽
  on!_arrow\t🔛
  o_button_(blood_type)\t🅾
  oman\t🇴🇲
  ophiuchus\t⛎
  p_button\t🅿
  pakistan\t🇵🇰
  palau\t🇵🇼
  palestinian_territories\t🇵🇸
  panama\t🇵🇦
  papua_new_guinea\t🇵🇬
  paraguay\t🇵🇾
  peru\t🇵🇪
  philippines\t🇵🇭
  pisces\t♓
  pitcairn_islands\t🇵🇳
  poland\t🇵🇱
  portugal\t🇵🇹
  puerto_rico\t🇵🇷
  qatar\t🇶🇦
  romania\t🇷🇴
  russia\t🇷🇺
  rwanda\t🇷🇼
  réunion\t🇷🇪
  soon_arrow\t🔜
  sos_button\t🆘
  sagittarius\t♐
  samoa\t🇼🇸
  san_marino\t🇸🇲
  santa_claus\t🎅
  santa_claus_dark_skin_tone\t🎅🏿
  santa_claus_light_skin_tone\t🎅🏻
  santa_claus_medium-dark_skin_tone\t🎅🏾
  santa_claus_medium-light_skin_tone\t🎅🏼
  santa_claus_medium_skin_tone\t🎅🏽
  saudi_arabia\t🇸🇦
  scorpio\t♏
  scotland\t🏴󠁧󠁢󠁳󠁣󠁴󠁿
  senegal\t🇸🇳
  serbia\t🇷🇸
  seychelles\t🇸🇨
  sierra_leone\t🇸🇱
  singapore\t🇸🇬
  sint_maarten\t🇸🇽
  slovakia\t🇸🇰
  slovenia\t🇸🇮
  solomon_islands\t🇸🇧
  somalia\t🇸🇴
  south_africa\t🇿🇦
  south_georgia_&_south_sandwich_islands\t🇬🇸
  south_korea\t🇰🇷
  south_sudan\t🇸🇸
  spain\t🇪🇸
  sri_lanka\t🇱🇰
  st._barthélemy\t🇧🇱
  st._helena\t🇸🇭
  st._kitts_&_nevis\t🇰🇳
  st._lucia\t🇱🇨
  st._martin\t🇲🇫
  st._pierre_&_miquelon\t🇵🇲
  st._vincent_&_grenadines\t🇻🇨
  statue_of_liberty\t🗽
  sudan\t🇸🇩
  suriname\t🇸🇷
  svalbard_&_jan_mayen\t🇸🇯
  swaziland\t🇸🇿
  sweden\t🇸🇪
  switzerland\t🇨🇭
  syria\t🇸🇾
  são_tomé_&_príncipe\t🇸🇹
  t-rex\t🦖
  top_arrow\t🔝
  taiwan\t🇹🇼
  tajikistan\t🇹🇯
  tanzania\t🇹🇿
  taurus\t♉
  thailand\t🇹🇭
  timor-leste\t🇹🇱
  togo\t🇹🇬
  tokelau\t🇹🇰
  tokyo_tower\t🗼
  tonga\t🇹🇴
  trinidad_&_tobago\t🇹🇹
  tristan_da_cunha\t🇹🇦
  tunisia\t🇹🇳
  turkey\t🦃
  turkmenistan\t🇹🇲
  turks_&_caicos_islands\t🇹🇨
  tuvalu\t🇹🇻
  u.s._outlying_islands\t🇺🇲
  u.s._virgin_islands\t🇻🇮
  up!_button\t🆙
  uganda\t🇺🇬
  ukraine\t🇺🇦
  united_arab_emirates\t🇦🇪
  united_kingdom\t🇬🇧
  united_nations\t🇺🇳
  united_states\t🇺🇸
  uruguay\t🇺🇾
  uzbekistan\t🇺🇿
  vs_button\t🆚
  vanuatu\t🇻🇺
  vatican_city\t🇻🇦
  venezuela\t🇻🇪
  vietnam\t🇻🇳
  virgo\t♍
  wales\t🏴󠁧󠁢󠁷󠁬󠁳󠁿
  wallis_&_futuna\t🇼🇫
  western_sahara\t🇪🇭
  yemen\t🇾🇪
  zambia\t🇿🇲
  zimbabwe\t🇿🇼
  abacus\t🧮
  adhesive_bandage\t🩹
  admission_tickets\t🎟
  adult\t🧑
  adult_dark_skin_tone\t🧑🏿
  adult_light_skin_tone\t🧑🏻
  adult_medium-dark_skin_tone\t🧑🏾
  adult_medium-light_skin_tone\t🧑🏼
  adult_medium_skin_tone\t🧑🏽
  aerial_tramway\t🚡
  airplane\t✈
  airplane_arrival\t🛬
  airplane_departure\t🛫
  alarm_clock\t⏰
  alembic\t⚗
  alien\t👽
  alien_monster\t👾
  ambulance\t🚑
  american_football\t🏈
  amphora\t🏺
  anchor\t⚓
  anger_symbol\t💢
  angry_face\t😠
  angry_face_with_horns\t👿
  anguished_face\t😧
  ant\t🐜
  antenna_bars\t📶
  anxious_face_with_sweat\t😰
  articulated_lorry\t🚛
  artist_palette\t🎨
  astonished_face\t😲
  atom_symbol\t⚛
  auto_rickshaw\t🛺
  automobile\t🚗
  avocado\t🥑
  axe\t🪓
  baby\t👶
  baby_angel\t👼
  baby_angel_dark_skin_tone\t👼🏿
  baby_angel_light_skin_tone\t👼🏻
  baby_angel_medium-dark_skin_tone\t👼🏾
  baby_angel_medium-light_skin_tone\t👼🏼
  baby_angel_medium_skin_tone\t👼🏽
  baby_bottle\t🍼
  baby_chick\t🐤
  baby_dark_skin_tone\t👶🏿
  baby_light_skin_tone\t👶🏻
  baby_medium-dark_skin_tone\t👶🏾
  baby_medium-light_skin_tone\t👶🏼
  baby_medium_skin_tone\t👶🏽
  baby_symbol\t🚼
  backhand_index_pointing_down\t👇
  backhand_index_pointing_down_dark_skin_tone\t👇🏿
  backhand_index_pointing_down_light_skin_tone\t👇🏻
  backhand_index_pointing_down_medium-dark_skin_tone\t👇🏾
  backhand_index_pointing_down_medium-light_skin_tone\t👇🏼
  backhand_index_pointing_down_medium_skin_tone\t👇🏽
  backhand_index_pointing_left\t👈
  backhand_index_pointing_left_dark_skin_tone\t👈🏿
  backhand_index_pointing_left_light_skin_tone\t👈🏻
  backhand_index_pointing_left_medium-dark_skin_tone\t👈🏾
  backhand_index_pointing_left_medium-light_skin_tone\t👈🏼
  backhand_index_pointing_left_medium_skin_tone\t👈🏽
  backhand_index_pointing_right\t👉
  backhand_index_pointing_right_dark_skin_tone\t👉🏿
  backhand_index_pointing_right_light_skin_tone\t👉🏻
  backhand_index_pointing_right_medium-dark_skin_tone\t👉🏾
  backhand_index_pointing_right_medium-light_skin_tone\t👉🏼
  backhand_index_pointing_right_medium_skin_tone\t👉🏽
  backhand_index_pointing_up\t👆
  backhand_index_pointing_up_dark_skin_tone\t👆🏿
  backhand_index_pointing_up_light_skin_tone\t👆🏻
  backhand_index_pointing_up_medium-dark_skin_tone\t👆🏾
  backhand_index_pointing_up_medium-light_skin_tone\t👆🏼
  backhand_index_pointing_up_medium_skin_tone\t👆🏽
  bacon\t🥓
  badger\t🦡
  badminton\t🏸
  bagel\t🥯
  baggage_claim\t🛄
  baguette_bread\t🥖
  balance_scale\t⚖
  bald\t🦲
  bald_man\t👨\u200D🦲
  bald_woman\t👩\u200D🦲
  ballet_shoes\t🩰
  balloon\t🎈
  ballot_box_with_ballot\t🗳
  ballot_box_with_check\t☑
  banana\t🍌
  banjo\t🪕
  bank\t🏦
  bar_chart\t📊
  barber_pole\t💈
  baseball\t⚾
  basket\t🧺
  basketball\t🏀
  bat\t🦇
  bathtub\t🛁
  battery\t🔋
  beach_with_umbrella\t🏖
  beaming_face_with_smiling_eyes\t😁
  bear_face\t🐻
  bearded_person\t🧔
  bearded_person_dark_skin_tone\t🧔🏿
  bearded_person_light_skin_tone\t🧔🏻
  bearded_person_medium-dark_skin_tone\t🧔🏾
  bearded_person_medium-light_skin_tone\t🧔🏼
  bearded_person_medium_skin_tone\t🧔🏽
  beating_heart\t💓
  bed\t🛏
  beer_mug\t🍺
  bell\t🔔
  bell_with_slash\t🔕
  bellhop_bell\t🛎
  bento_box\t🍱
  beverage_box\t🧃
  bicycle\t🚲
  bikini\t👙
  billed_cap\t🧢
  biohazard\t☣
  bird\t🐦
  birthday_cake\t🎂
  black_circle\t⚫
  black_flag\t🏴
  black_heart\t🖤
  black_large_square\t⬛
  black_medium-small_square\t◾
  black_medium_square\t◼
  black_nib\t✒
  black_small_square\t▪
  black_square_button\t🔲
  blond-haired_man\t👱\u200D♂\uFE0F
  blond-haired_man_dark_skin_tone\t👱🏿\u200D♂\uFE0F
  blond-haired_man_light_skin_tone\t👱🏻\u200D♂\uFE0F
  blond-haired_man_medium-dark_skin_tone\t👱🏾\u200D♂\uFE0F
  blond-haired_man_medium-light_skin_tone\t👱🏼\u200D♂\uFE0F
  blond-haired_man_medium_skin_tone\t👱🏽\u200D♂\uFE0F
  blond-haired_person\t👱
  blond-haired_person_dark_skin_tone\t👱🏿
  blond-haired_person_light_skin_tone\t👱🏻
  blond-haired_person_medium-dark_skin_tone\t👱🏾
  blond-haired_person_medium-light_skin_tone\t👱🏼
  blond-haired_person_medium_skin_tone\t👱🏽
  blond-haired_woman\t👱\u200D♀\uFE0F
  blond-haired_woman_dark_skin_tone\t👱🏿\u200D♀\uFE0F
  blond-haired_woman_light_skin_tone\t👱🏻\u200D♀\uFE0F
  blond-haired_woman_medium-dark_skin_tone\t👱🏾\u200D♀\uFE0F
  blond-haired_woman_medium-light_skin_tone\t👱🏼\u200D♀\uFE0F
  blond-haired_woman_medium_skin_tone\t👱🏽\u200D♀\uFE0F
  blossom\t🌼
  blowfish\t🐡
  blue_book\t📘
  blue_circle\t🔵
  blue_heart\t💙
  blue_square\t🟦
  boar\t🐗
  bomb\t💣
  bone\t🦴
  bookmark\t🔖
  bookmark_tabs\t📑
  books\t📚
  bottle_with_popping_cork\t🍾
  bouquet\t💐
  bow_and_arrow\t🏹
  bowl_with_spoon\t🥣
  bowling\t🎳
  boxing_glove\t🥊
  boy\t👦
  boy_dark_skin_tone\t👦🏿
  boy_light_skin_tone\t👦🏻
  boy_medium-dark_skin_tone\t👦🏾
  boy_medium-light_skin_tone\t👦🏼
  boy_medium_skin_tone\t👦🏽
  brain\t🧠
  bread\t🍞
  breast-feeding\t🤱
  breast-feeding_dark_skin_tone\t🤱🏿
  breast-feeding_light_skin_tone\t🤱🏻
  breast-feeding_medium-dark_skin_tone\t🤱🏾
  breast-feeding_medium-light_skin_tone\t🤱🏼
  breast-feeding_medium_skin_tone\t🤱🏽
  brick\t🧱
  bride_with_veil\t👰
  bride_with_veil_dark_skin_tone\t👰🏿
  bride_with_veil_light_skin_tone\t👰🏻
  bride_with_veil_medium-dark_skin_tone\t👰🏾
  bride_with_veil_medium-light_skin_tone\t👰🏼
  bride_with_veil_medium_skin_tone\t👰🏽
  bridge_at_night\t🌉
  briefcase\t💼
  briefs\t🩲
  bright_button\t🔆
  broccoli\t🥦
  broken_heart\t💔
  broom\t🧹
  brown_circle\t🟤
  brown_heart\t🤎
  brown_square\t🟫
  bug\t🐛
  building_construction\t🏗
  bullet_train\t🚅
  burrito\t🌯
  bus\t🚌
  bus_stop\t🚏
  bust_in_silhouette\t👤
  busts_in_silhouette\t👥
  butter\t🧈
  butterfly\t🦋
  cactus\t🌵
  calendar\t📆
  call_me_hand\t🤙
  call_me_hand_dark_skin_tone\t🤙🏿
  call_me_hand_light_skin_tone\t🤙🏻
  call_me_hand_medium-dark_skin_tone\t🤙🏾
  call_me_hand_medium-light_skin_tone\t🤙🏼
  call_me_hand_medium_skin_tone\t🤙🏽
  camel\t🐫
  camera\t📷
  camera_with_flash\t📸
  camping\t🏕
  candle\t🕯
  candy\t🍬
  canned_food\t🥫
  canoe\t🛶
  card_file_box\t🗃
  card_index\t📇
  card_index_dividers\t🗂
  carousel_horse\t🎠
  carp_streamer\t🎏
  carrot\t🥕
  castle\t🏰
  cat\t🐱
  cat_face\t🐱
  cat_face_with_tears_of_joy\t😹
  cat_face_with_wry_smile\t😼
  chains\t⛓
  chair\t🪑
  chart_decreasing\t📉
  chart_increasing\t📈
  chart_increasing_with_yen\t💹
  cheese_wedge\t🧀
  chequered_flag\t🏁
  cherries\t🍒
  cherry_blossom\t🌸
  chess_pawn\t♟
  chestnut\t🌰
  chicken\t🐔
  child\t🧒
  child_dark_skin_tone\t🧒🏿
  child_light_skin_tone\t🧒🏻
  child_medium-dark_skin_tone\t🧒🏾
  child_medium-light_skin_tone\t🧒🏼
  child_medium_skin_tone\t🧒🏽
  children_crossing\t🚸
  chipmunk\t🐿
  chocolate_bar\t🍫
  chopsticks\t🥢
  church\t⛪
  cigarette\t🚬
  cinema\t🎦
  circled_m\tⓂ
  circus_tent\t🎪
  cityscape\t🏙
  cityscape_at_dusk\t🌆
  clamp\t🗜
  clapper_board\t🎬
  clapping_hands\t👏
  clapping_hands_dark_skin_tone\t👏🏿
  clapping_hands_light_skin_tone\t👏🏻
  clapping_hands_medium-dark_skin_tone\t👏🏾
  clapping_hands_medium-light_skin_tone\t👏🏼
  clapping_hands_medium_skin_tone\t👏🏽
  classical_building\t🏛
  clinking_beer_mugs\t🍻
  clinking_glasses\t🥂
  clipboard\t📋
  clockwise_vertical_arrows\t🔃
  closed_book\t📕
  closed_mailbox_with_lowered_flag\t📪
  closed_mailbox_with_raised_flag\t📫
  closed_umbrella\t🌂
  cloud\t☁
  cloud_with_lightning\t🌩
  cloud_with_lightning_and_rain\t⛈
  cloud_with_rain\t🌧
  cloud_with_snow\t🌨
  clown_face\t🤡
  club_suit\t♣
  clutch_bag\t👝
  coat\t🧥
  cocktail_glass\t🍸
  coconut\t🥥
  coffin\t⚰
  cold_face\t🥶
  collision\t💥
  comet\t☄
  compass\t🧭
  computer_disk\t💽
  computer_mouse\t🖱
  confetti_ball\t🎊
  confounded_face\t😖
  confused_face\t😕
  construction\t🚧
  construction_worker\t👷
  construction_worker_dark_skin_tone\t👷🏿
  construction_worker_light_skin_tone\t👷🏻
  construction_worker_medium-dark_skin_tone\t👷🏾
  construction_worker_medium-light_skin_tone\t👷🏼
  construction_worker_medium_skin_tone\t👷🏽
  control_knobs\t🎛
  convenience_store\t🏪
  cooked_rice\t🍚
  cookie\t🍪
  cooking\t🍳
  copyright\t©
  couch_and_lamp\t🛋
  counterclockwise_arrows_button\t🔄
  couple_with_heart\t💑
  couple_with_heart_man_man\t👨\u200D❤\uFE0F\u200D👨
  couple_with_heart_woman_man\t👩\u200D❤\uFE0F\u200D👨
  couple_with_heart_woman_woman\t👩\u200D❤\uFE0F\u200D👩
  cow\t🐮
  cow_face\t🐮
  cowboy_hat_face\t🤠
  crab\t🦀
  crayon\t🖍
  credit_card\t💳
  crescent_moon\t🌙
  cricket\t🦗
  cricket_game\t🏏
  crocodile\t🐊
  croissant\t🥐
  cross_mark\t❌
  cross_mark_button\t❎
  crossed_fingers\t🤞
  crossed_fingers_dark_skin_tone\t🤞🏿
  crossed_fingers_light_skin_tone\t🤞🏻
  crossed_fingers_medium-dark_skin_tone\t🤞🏾
  crossed_fingers_medium-light_skin_tone\t🤞🏼
  crossed_fingers_medium_skin_tone\t🤞🏽
  crossed_flags\t🎌
  crossed_swords\t⚔
  crown\t👑
  crying_cat_face\t😿
  crying_face\t😢
  crystal_ball\t🔮
  cucumber\t🥒
  cupcake\t🧁
  cup_with_straw\t🥤
  curling_stone\t🥌
  curly_hair\t🦱
  curly-haired_man\t👨\u200D🦱
  curly-haired_woman\t👩\u200D🦱
  curly_loop\t➰
  currency_exchange\t💱
  curry_rice\t🍛
  custard\t🍮
  customs\t🛃
  cut_of_meat\t🥩
  cyclone\t🌀
  dagger\t🗡
  dango\t🍡
  dashing_away\t💨
  deaf_person\t🧏
  deciduous_tree\t🌳
  deer\t🦌
  delivery_truck\t🚚
  department_store\t🏬
  derelict_house\t🏚
  desert\t🏜
  desert_island\t🏝
  desktop_computer\t🖥
  detective\t🕵
  detective_dark_skin_tone\t🕵🏿
  detective_light_skin_tone\t🕵🏻
  detective_medium-dark_skin_tone\t🕵🏾
  detective_medium-light_skin_tone\t🕵🏼
  detective_medium_skin_tone\t🕵🏽
  diamond_suit\t♦
  diamond_with_a_dot\t💠
  dim_button\t🔅
  direct_hit\t🎯
  disappointed_face\t😞
  diving_mask\t🤿
  diya_lamp\t🪔
  dizzy\t💫
  dizzy_face\t😵
  dna\t🧬
  dog\t🐶
  dog_face\t🐶
  dollar_banknote\t💵
  dolphin\t🐬
  door\t🚪
  dotted_six-pointed_star\t🔯
  double_curly_loop\t➿
  double_exclamation_mark\t‼
  doughnut\t🍩
  dove\t🕊
  down-left_arrow\t↙
  down-right_arrow\t↘
  down_arrow\t⬇
  downcast_face_with_sweat\t😓
  downwards_button\t🔽
  dragon\t🐉
  dragon_face\t🐲
  dress\t👗
  drooling_face\t🤤
  drop_of_blood\t🩸
  droplet\t💧
  drum\t🥁
  duck\t🦆
  dumpling\t🥟
  dvd\t📀
  e-mail\t📧
  eagle\t🦅
  ear\t👂
  ear_dark_skin_tone\t👂🏿
  ear_light_skin_tone\t👂🏻
  ear_medium-dark_skin_tone\t👂🏾
  ear_medium-light_skin_tone\t👂🏼
  ear_medium_skin_tone\t👂🏽
  ear_of_corn\t🌽
  ear_with_hearing_aid\t🦻
  egg\t🍳
  eggplant\t🍆
  eight-pointed_star\t✴
  eight-spoked_asterisk\t✳
  eight-thirty\t🕣
  eight_o’clock\t🕗
  eject_button\t⏏
  electric_plug\t🔌
  elephant\t🐘
  eleven-thirty\t🕦
  eleven_o’clock\t🕚
  elf\t🧝
  elf_dark_skin_tone\t🧝🏿
  elf_light_skin_tone\t🧝🏻
  elf_medium-dark_skin_tone\t🧝🏾
  elf_medium-light_skin_tone\t🧝🏼
  elf_medium_skin_tone\t🧝🏽
  envelope\t✉
  envelope_with_arrow\t📩
  euro_banknote\t💶
  evergreen_tree\t🌲
  ewe\t🐑
  exclamation_mark\t❗
  exclamation_question_mark\t⁉
  exploding_head\t🤯
  expressionless_face\t😑
  eye\t👁
  eye_in_speech_bubble\t👁\uFE0F\u200D🗨\uFE0F
  eyes\t👀
  face_blowing_a_kiss\t😘
  face_savoring_food\t😋
  face_screaming_in_fear\t😱
  face_vomiting\t🤮
  face_with_hand_over_mouth\t🤭
  face_with_head-bandage\t🤕
  face_with_medical_mask\t😷
  face_with_monocle\t🧐
  face_with_open_mouth\t😮
  face_with_raised_eyebrow\t🤨
  face_with_rolling_eyes\t🙄
  face_with_steam_from_nose\t😤
  face_with_symbols_on_mouth\t🤬
  face_with_tears_of_joy\t😂
  face_with_thermometer\t🤒
  face_with_tongue\t😛
  face_without_mouth\t😶
  factory\t🏭
  fairy\t🧚
  fairy_dark_skin_tone\t🧚🏿
  fairy_light_skin_tone\t🧚🏻
  fairy_medium-dark_skin_tone\t🧚🏾
  fairy_medium-light_skin_tone\t🧚🏼
  fairy_medium_skin_tone\t🧚🏽
  falafel\t🧆
  fallen_leaf\t🍂
  family\t👪
  family_man_boy\t👨\u200D👦
  family_man_boy_boy\t👨\u200D👦\u200D👦
  family_man_girl\t👨\u200D👧
  family_man_girl_boy\t👨\u200D👧\u200D👦
  family_man_girl_girl\t👨\u200D👧\u200D👧
  family_man_man_boy\t👨\u200D👨\u200D👦
  family_man_man_boy_boy\t👨\u200D👨\u200D👦\u200D👦
  family_man_man_girl\t👨\u200D👨\u200D👧
  family_man_man_girl_boy\t👨\u200D👨\u200D👧\u200D👦
  family_man_man_girl_girl\t👨\u200D👨\u200D👧\u200D👧
  family_man_woman_boy\t👨\u200D👩\u200D👦
  family_man_woman_boy_boy\t👨\u200D👩\u200D👦\u200D👦
  family_man_woman_girl\t👨\u200D👩\u200D👧
  family_man_woman_girl_boy\t👨\u200D👩\u200D👧\u200D👦
  family_man_woman_girl_girl\t👨\u200D👩\u200D👧\u200D👧
  family_woman_boy\t👩\u200D👦
  family_woman_boy_boy\t👩\u200D👦\u200D👦
  family_woman_girl\t👩\u200D👧
  family_woman_girl_boy\t👩\u200D👧\u200D👦
  family_woman_girl_girl\t👩\u200D👧\u200D👧
  family_woman_woman_boy\t👩\u200D👩\u200D👦
  family_woman_woman_boy_boy\t👩\u200D👩\u200D👦\u200D👦
  family_woman_woman_girl\t👩\u200D👩\u200D👧
  family_woman_woman_girl_boy\t👩\u200D👩\u200D👧\u200D👦
  family_woman_woman_girl_girl\t👩\u200D👩\u200D👧\u200D👧
  fast-forward_button\t⏩
  fast_down_button\t⏬
  fast_reverse_button\t⏪
  fast_up_button\t⏫
  fax_machine\t📠
  fearful_face\t😨
  female_sign\t♀
  ferris_wheel\t🎡
  ferry\t⛴
  field_hockey\t🏑
  file_cabinet\t🗄
  file_folder\t📁
  film_frames\t🎞
  film_projector\t📽
  fire\t🔥
  fire_extinguisher\t🧯
  firecracker\t🧨
  fire_engine\t🚒
  fireworks\t🎆
  first_quarter_moon\t🌓
  first_quarter_moon_face\t🌛
  fish\t🐟
  fish_cake_with_swirl\t🍥
  fishing_pole\t🎣
  five-thirty\t🕠
  five_o’clock\t🕔
  flag_in_hole\t⛳
  flamingo\t🦩
  flashlight\t🔦
  flat_shoe\t🥿
  fleur-de-lis\t⚜
  flexed_biceps\t💪
  flexed_biceps_dark_skin_tone\t💪🏿
  flexed_biceps_light_skin_tone\t💪🏻
  flexed_biceps_medium-dark_skin_tone\t💪🏾
  flexed_biceps_medium-light_skin_tone\t💪🏼
  flexed_biceps_medium_skin_tone\t💪🏽
  floppy_disk\t💾
  flower_playing_cards\t🎴
  flushed_face\t😳
  flying_disc\t🥏
  flying_saucer\t🛸
  fog\t🌫
  foggy\t🌁
  folded_hands\t🙏
  folded_hands_dark_skin_tone\t🙏🏿
  folded_hands_light_skin_tone\t🙏🏻
  folded_hands_medium-dark_skin_tone\t🙏🏾
  folded_hands_medium-light_skin_tone\t🙏🏼
  folded_hands_medium_skin_tone\t🙏🏽
  foot\t🦶
  footprints\t👣
  fork_and_knife\t🍴
  fork_and_knife_with_plate\t🍽
  fortune_cookie\t🥠
  fountain\t⛲
  fountain_pen\t🖋
  four-thirty\t🕟
  four_leaf_clover\t🍀
  four_o’clock\t🕓
  fox_face\t🦊
  framed_picture\t🖼
  french_fries\t🍟
  fried_shrimp\t🍤
  frog_face\t🐸
  front-facing_baby_chick\t🐥
  frowning_face\t☹
  frowning_face_with_open_mouth\t😦
  fuel_pump\t⛽
  full_moon\t🌕
  full_moon_face\t🌝
  funeral_urn\t⚱
  game_die\t🎲
  garlic\t🧄
  gear\t⚙
  gem_stone\t💎
  genie\t🧞
  ghost\t👻
  giraffe\t🦒
  girl\t👧
  girl_dark_skin_tone\t👧🏿
  girl_light_skin_tone\t👧🏻
  girl_medium-dark_skin_tone\t👧🏾
  girl_medium-light_skin_tone\t👧🏼
  girl_medium_skin_tone\t👧🏽
  glass_of_milk\t🥛
  glasses\t👓
  globe_showing_americas\t🌎
  globe_showing_asia-australia\t🌏
  globe_showing_europe-africa\t🌍
  globe_with_meridians\t🌐
  gloves\t🧤
  glowing_star\t🌟
  goal_net\t🥅
  goat\t🐐
  goblin\t👺
  goggles\t🥽
  gorilla\t🦍
  graduation_cap\t🎓
  grapes\t🍇
  green_apple\t🍏
  green_book\t📗
  green_circle\t🟢
  green_heart\t💚
  green_salad\t🥗
  green_square\t🟩
  grimacing_face\t😬
  grinning_cat_face\t😺
  grinning_cat_face_with_smiling_eyes\t😸
  grinning_face\t😀
  grinning_face_with_big_eyes\t😃
  grinning_face_with_smiling_eyes\t😄
  grinning_face_with_sweat\t😅
  grinning_squinting_face\t😆
  growing_heart\t💗
  guard\t💂
  guard_dark_skin_tone\t💂🏿
  guard_light_skin_tone\t💂🏻
  guard_medium-dark_skin_tone\t💂🏾
  guard_medium-light_skin_tone\t💂🏼
  guard_medium_skin_tone\t💂🏽
  guide_dog\t🦮
  guitar\t🎸
  hamburger\t🍔
  hammer\t🔨
  hammer_and_pick\t⚒
  hammer_and_wrench\t🛠
  hamster_face\t🐹
  hand_with_fingers_splayed\t🖐
  hand_with_fingers_splayed_dark_skin_tone\t🖐🏿
  hand_with_fingers_splayed_light_skin_tone\t🖐🏻
  hand_with_fingers_splayed_medium-dark_skin_tone\t🖐🏾
  hand_with_fingers_splayed_medium-light_skin_tone\t🖐🏼
  hand_with_fingers_splayed_medium_skin_tone\t🖐🏽
  handbag\t👜
  handshake\t🤝
  hatching_chick\t🐣
  headphone\t🎧
  hear-no-evil_monkey\t🙉
  heart_decoration\t💟
  heart_suit\t♥
  heart_with_arrow\t💘
  heart_with_ribbon\t💝
  heavy_check_mark\t✔
  heavy_division_sign\t➗
  heavy_dollar_sign\t💲
  heavy_heart_exclamation\t❣
  heavy_large_circle\t⭕
  heavy_minus_sign\t➖
  heavy_multiplication_x\t✖
  heavy_plus_sign\t➕
  hedgehog\t🦔
  helicopter\t🚁
  herb\t🌿
  hibiscus\t🌺
  high-heeled_shoe\t👠
  high-speed_train\t🚄
  high_voltage\t⚡
  hiking_boot\t🥾
  hindu_temple\t🛕
  hippopotamus\t🦛
  hole\t🕳
  honey_pot\t🍯
  honeybee\t🐝
  horizontal_traffic_light\t🚥
  horse\t🐴
  horse_face\t🐴
  horse_racing\t🏇
  horse_racing_dark_skin_tone\t🏇🏿
  horse_racing_light_skin_tone\t🏇🏻
  horse_racing_medium-dark_skin_tone\t🏇🏾
  horse_racing_medium-light_skin_tone\t🏇🏼
  horse_racing_medium_skin_tone\t🏇🏽
  hospital\t🏥
  hot_beverage\t☕
  hot_dog\t🌭
  hot_face\t🥵
  hot_pepper\t🌶
  hot_springs\t♨
  hotel\t🏨
  hourglass_done\t⌛
  hourglass_not_done\t⏳
  house\t🏠
  house_with_garden\t🏡
  houses\t🏘
  hugging_face\t🤗
  hundred_points\t💯
  hushed_face\t😯
  ice\t🧊
  ice_cream\t🍨
  ice_hockey\t🏒
  ice_skate\t⛸
  inbox_tray\t📥
  incoming_envelope\t📨
  index_pointing_up\t☝
  index_pointing_up_dark_skin_tone\t☝🏿
  index_pointing_up_light_skin_tone\t☝🏻
  index_pointing_up_medium-dark_skin_tone\t☝🏾
  index_pointing_up_medium-light_skin_tone\t☝🏼
  index_pointing_up_medium_skin_tone\t☝🏽
  infinity\t♾
  information\tℹ
  input_latin_letters\t🔤
  input_latin_lowercase\t🔡
  input_latin_uppercase\t🔠
  input_numbers\t🔢
  input_symbols\t🔣
  jack-o-lantern\t🎃
  jeans\t👖
  jigsaw\t🧩
  joker\t🃏
  joystick\t🕹
  kaaba\t🕋
  kangaroo\t🦘
  key\t🔑
  keyboard\t⌨
  keycap_#\t#\uFE0F\u20E3
  keycap_*\t*\uFE0F\u20E3
  keycap_0\t0\uFE0F\u20E3
  keycap_1\t1\uFE0F\u20E3
  keycap_10\t🔟
  keycap_2\t2\uFE0F\u20E3
  keycap_3\t3\uFE0F\u20E3
  keycap_4\t4\uFE0F\u20E3
  keycap_5\t5\uFE0F\u20E3
  keycap_6\t6\uFE0F\u20E3
  keycap_7\t7\uFE0F\u20E3
  keycap_8\t8\uFE0F\u20E3
  keycap_9\t9\uFE0F\u20E3
  kick_scooter\t🛴
  kimono\t👘
  kiss\t💋
  kiss_man_man\t👨\u200D❤\uFE0F\u200D💋\u200D👨
  kiss_mark\t💋
  kiss_woman_man\t👩\u200D❤\uFE0F\u200D💋\u200D👨
  kiss_woman_woman\t👩\u200D❤\uFE0F\u200D💋\u200D👩
  kissing_cat_face\t😽
  kissing_face\t😗
  kissing_face_with_closed_eyes\t😚
  kissing_face_with_smiling_eyes\t😙
  kitchen_knife\t🔪
  kite\t🪁
  kiwi_fruit\t🥝
  koala\t🐨
  lab_coat\t🥼
  label\t🏷
  lacrosse\t🥍
  lady_beetle\t🐞
  laptop_computer\t💻
  large_blue_diamond\t🔷
  large_orange_diamond\t🔶
  last_quarter_moon\t🌗
  last_quarter_moon_face\t🌜
  last_track_button\t⏮
  latin_cross\t✝
  leaf_fluttering_in_wind\t🍃
  leafy_green\t🥬
  ledger\t📒
  left-facing_fist\t🤛
  left-facing_fist_dark_skin_tone\t🤛🏿
  left-facing_fist_light_skin_tone\t🤛🏻
  left-facing_fist_medium-dark_skin_tone\t🤛🏾
  left-facing_fist_medium-light_skin_tone\t🤛🏼
  left-facing_fist_medium_skin_tone\t🤛🏽
  left-right_arrow\t↔
  left_arrow\t⬅
  left_arrow_curving_right\t↪
  left_luggage\t🛅
  left_speech_bubble\t🗨
  leg\t🦵
  lemon\t🍋
  leopard\t🐆
  level_slider\t🎚
  light_bulb\t💡
  light_rail\t🚈
  link\t🔗
  linked_paperclips\t🖇
  lion_face\t🦁
  lipstick\t💄
  litter_in_bin_sign\t🚮
  lizard\t🦎
  llama\t🦙
  lobster\t🦞
  locked\t🔒
  locked_with_key\t🔐
  locked_with_pen\t🔏
  locomotive\t🚂
  lollipop\t🍭
  lotion_bottle\t🧴
  loudly_crying_face\t😭
  loudspeaker\t📢
  love-you_gesture\t🤟
  love-you_gesture_dark_skin_tone\t🤟🏿
  love-you_gesture_light_skin_tone\t🤟🏻
  love-you_gesture_medium-dark_skin_tone\t🤟🏾
  love-you_gesture_medium-light_skin_tone\t🤟🏼
  love-you_gesture_medium_skin_tone\t🤟🏽
  love_hotel\t🏩
  love_letter\t💌
  luggage\t🧳
  lying_face\t🤥
  mage\t🧙
  mage_dark_skin_tone\t🧙🏿
  mage_light_skin_tone\t🧙🏻
  mage_medium-dark_skin_tone\t🧙🏾
  mage_medium-light_skin_tone\t🧙🏼
  mage_medium_skin_tone\t🧙🏽
  magnet\t🧲
  magnifying_glass_tilted_left\t🔍
  magnifying_glass_tilted_right\t🔎
  mahjong_red_dragon\t🀄
  male_sign\t♂
  man\t👨
  man_and_woman_holding_hands\t👫
  man_artist\t👨\u200D🎨
  man_artist_dark_skin_tone\t👨🏿\u200D🎨
  man_artist_light_skin_tone\t👨🏻\u200D🎨
  man_artist_medium-dark_skin_tone\t👨🏾\u200D🎨
  man_artist_medium-light_skin_tone\t👨🏼\u200D🎨
  man_artist_medium_skin_tone\t👨🏽\u200D🎨
  man_astronaut\t👨\u200D🚀
  man_astronaut_dark_skin_tone\t👨🏿\u200D🚀
  man_astronaut_light_skin_tone\t👨🏻\u200D🚀
  man_astronaut_medium-dark_skin_tone\t👨🏾\u200D🚀
  man_astronaut_medium-light_skin_tone\t👨🏼\u200D🚀
  man_astronaut_medium_skin_tone\t👨🏽\u200D🚀
  man_biking\t🚴\u200D♂\uFE0F
  man_biking_dark_skin_tone\t🚴🏿\u200D♂\uFE0F
  man_biking_light_skin_tone\t🚴🏻\u200D♂\uFE0F
  man_biking_medium-dark_skin_tone\t🚴🏾\u200D♂\uFE0F
  man_biking_medium-light_skin_tone\t🚴🏼\u200D♂\uFE0F
  man_biking_medium_skin_tone\t🚴🏽\u200D♂\uFE0F
  man_bouncing_ball\t⛹\uFE0F\u200D♂\uFE0F
  man_bouncing_ball_dark_skin_tone\t⛹🏿\u200D♂\uFE0F
  man_bouncing_ball_light_skin_tone\t⛹🏻\u200D♂\uFE0F
  man_bouncing_ball_medium-dark_skin_tone\t⛹🏾\u200D♂\uFE0F
  man_bouncing_ball_medium-light_skin_tone\t⛹🏼\u200D♂\uFE0F
  man_bouncing_ball_medium_skin_tone\t⛹🏽\u200D♂\uFE0F
  man_bowing\t🙇\u200D♂\uFE0F
  man_bowing_dark_skin_tone\t🙇🏿\u200D♂\uFE0F
  man_bowing_light_skin_tone\t🙇🏻\u200D♂\uFE0F
  man_bowing_medium-dark_skin_tone\t🙇🏾\u200D♂\uFE0F
  man_bowing_medium-light_skin_tone\t🙇🏼\u200D♂\uFE0F
  man_bowing_medium_skin_tone\t🙇🏽\u200D♂\uFE0F
  man_cartwheeling\t🤸\u200D♂\uFE0F
  man_cartwheeling_dark_skin_tone\t🤸🏿\u200D♂\uFE0F
  man_cartwheeling_light_skin_tone\t🤸🏻\u200D♂\uFE0F
  man_cartwheeling_medium-dark_skin_tone\t🤸🏾\u200D♂\uFE0F
  man_cartwheeling_medium-light_skin_tone\t🤸🏼\u200D♂\uFE0F
  man_cartwheeling_medium_skin_tone\t🤸🏽\u200D♂\uFE0F
  man_climbing\t🧗\u200D♂\uFE0F
  man_climbing_dark_skin_tone\t🧗🏿\u200D♂\uFE0F
  man_climbing_light_skin_tone\t🧗🏻\u200D♂\uFE0F
  man_climbing_medium-dark_skin_tone\t🧗🏾\u200D♂\uFE0F
  man_climbing_medium-light_skin_tone\t🧗🏼\u200D♂\uFE0F
  man_climbing_medium_skin_tone\t🧗🏽\u200D♂\uFE0F
  man_construction_worker\t👷\u200D♂\uFE0F
  man_construction_worker_dark_skin_tone\t👷🏿\u200D♂\uFE0F
  man_construction_worker_light_skin_tone\t👷🏻\u200D♂\uFE0F
  man_construction_worker_medium-dark_skin_tone\t👷🏾\u200D♂\uFE0F
  man_construction_worker_medium-light_skin_tone\t👷🏼\u200D♂\uFE0F
  man_construction_worker_medium_skin_tone\t👷🏽\u200D♂\uFE0F
  man_cook\t👨\u200D🍳
  man_cook_dark_skin_tone\t👨🏿\u200D🍳
  man_cook_light_skin_tone\t👨🏻\u200D🍳
  man_cook_medium-dark_skin_tone\t👨🏾\u200D🍳
  man_cook_medium-light_skin_tone\t👨🏼\u200D🍳
  man_cook_medium_skin_tone\t👨🏽\u200D🍳
  man_dancing\t🕺
  man_dancing_dark_skin_tone\t🕺🏿
  man_dancing_light_skin_tone\t🕺🏻
  man_dancing_medium-dark_skin_tone\t🕺🏾
  man_dancing_medium-light_skin_tone\t🕺🏼
  man_dancing_medium_skin_tone\t🕺🏽
  man_dark_skin_tone\t👨🏿
  man_detective\t🕵\uFE0F\u200D♂\uFE0F
  man_detective_dark_skin_tone\t🕵🏿\u200D♂\uFE0F
  man_detective_light_skin_tone\t🕵🏻\u200D♂\uFE0F
  man_detective_medium-dark_skin_tone\t🕵🏾\u200D♂\uFE0F
  man_detective_medium-light_skin_tone\t🕵🏼\u200D♂\uFE0F
  man_detective_medium_skin_tone\t🕵🏽\u200D♂\uFE0F
  man_elf\t🧝\u200D♂\uFE0F
  man_elf_dark_skin_tone\t🧝🏿\u200D♂\uFE0F
  man_elf_light_skin_tone\t🧝🏻\u200D♂\uFE0F
  man_elf_medium-dark_skin_tone\t🧝🏾\u200D♂\uFE0F
  man_elf_medium-light_skin_tone\t🧝🏼\u200D♂\uFE0F
  man_elf_medium_skin_tone\t🧝🏽\u200D♂\uFE0F
  man_facepalming\t🤦\u200D♂\uFE0F
  man_facepalming_dark_skin_tone\t🤦🏿\u200D♂\uFE0F
  man_facepalming_light_skin_tone\t🤦🏻\u200D♂\uFE0F
  man_facepalming_medium-dark_skin_tone\t🤦🏾\u200D♂\uFE0F
  man_facepalming_medium-light_skin_tone\t🤦🏼\u200D♂\uFE0F
  man_facepalming_medium_skin_tone\t🤦🏽\u200D♂\uFE0F
  man_factory_worker\t👨\u200D🏭
  man_factory_worker_dark_skin_tone\t👨🏿\u200D🏭
  man_factory_worker_light_skin_tone\t👨🏻\u200D🏭
  man_factory_worker_medium-dark_skin_tone\t👨🏾\u200D🏭
  man_factory_worker_medium-light_skin_tone\t👨🏼\u200D🏭
  man_factory_worker_medium_skin_tone\t👨🏽\u200D🏭
  man_fairy\t🧚\u200D♂\uFE0F
  man_fairy_dark_skin_tone\t🧚🏿\u200D♂\uFE0F
  man_fairy_light_skin_tone\t🧚🏻\u200D♂\uFE0F
  man_fairy_medium-dark_skin_tone\t🧚🏾\u200D♂\uFE0F
  man_fairy_medium-light_skin_tone\t🧚🏼\u200D♂\uFE0F
  man_fairy_medium_skin_tone\t🧚🏽\u200D♂\uFE0F
  man_farmer\t👨\u200D🌾
  man_farmer_dark_skin_tone\t👨🏿\u200D🌾
  man_farmer_light_skin_tone\t👨🏻\u200D🌾
  man_farmer_medium-dark_skin_tone\t👨🏾\u200D🌾
  man_farmer_medium-light_skin_tone\t👨🏼\u200D🌾
  man_farmer_medium_skin_tone\t👨🏽\u200D🌾
  man_firefighter\t👨\u200D🚒
  man_firefighter_dark_skin_tone\t👨🏿\u200D🚒
  man_firefighter_light_skin_tone\t👨🏻\u200D🚒
  man_firefighter_medium-dark_skin_tone\t👨🏾\u200D🚒
  man_firefighter_medium-light_skin_tone\t👨🏼\u200D🚒
  man_firefighter_medium_skin_tone\t👨🏽\u200D🚒
  man_frowning\t🙍\u200D♂\uFE0F
  man_frowning_dark_skin_tone\t🙍🏿\u200D♂\uFE0F
  man_frowning_light_skin_tone\t🙍🏻\u200D♂\uFE0F
  man_frowning_medium-dark_skin_tone\t🙍🏾\u200D♂\uFE0F
  man_frowning_medium-light_skin_tone\t🙍🏼\u200D♂\uFE0F
  man_frowning_medium_skin_tone\t🙍🏽\u200D♂\uFE0F
  man_genie\t🧞\u200D♂\uFE0F
  man_gesturing_no\t🙅\u200D♂\uFE0F
  man_gesturing_no_dark_skin_tone\t🙅🏿\u200D♂\uFE0F
  man_gesturing_no_light_skin_tone\t🙅🏻\u200D♂\uFE0F
  man_gesturing_no_medium-dark_skin_tone\t🙅🏾\u200D♂\uFE0F
  man_gesturing_no_medium-light_skin_tone\t🙅🏼\u200D♂\uFE0F
  man_gesturing_no_medium_skin_tone\t🙅🏽\u200D♂\uFE0F
  man_gesturing_ok\t🙆\u200D♂\uFE0F
  man_gesturing_ok_dark_skin_tone\t🙆🏿\u200D♂\uFE0F
  man_gesturing_ok_light_skin_tone\t🙆🏻\u200D♂\uFE0F
  man_gesturing_ok_medium-dark_skin_tone\t🙆🏾\u200D♂\uFE0F
  man_gesturing_ok_medium-light_skin_tone\t🙆🏼\u200D♂\uFE0F
  man_gesturing_ok_medium_skin_tone\t🙆🏽\u200D♂\uFE0F
  man_getting_haircut\t💇\u200D♂\uFE0F
  man_getting_haircut_dark_skin_tone\t💇🏿\u200D♂\uFE0F
  man_getting_haircut_light_skin_tone\t💇🏻\u200D♂\uFE0F
  man_getting_haircut_medium-dark_skin_tone\t💇🏾\u200D♂\uFE0F
  man_getting_haircut_medium-light_skin_tone\t💇🏼\u200D♂\uFE0F
  man_getting_haircut_medium_skin_tone\t💇🏽\u200D♂\uFE0F
  man_getting_massage\t💆\u200D♂\uFE0F
  man_getting_massage_dark_skin_tone\t💆🏿\u200D♂\uFE0F
  man_getting_massage_light_skin_tone\t💆🏻\u200D♂\uFE0F
  man_getting_massage_medium-dark_skin_tone\t💆🏾\u200D♂\uFE0F
  man_getting_massage_medium-light_skin_tone\t💆🏼\u200D♂\uFE0F
  man_getting_massage_medium_skin_tone\t💆🏽\u200D♂\uFE0F
  man_golfing\t🏌\uFE0F\u200D♂\uFE0F
  man_golfing_dark_skin_tone\t🏌🏿\u200D♂\uFE0F
  man_golfing_light_skin_tone\t🏌🏻\u200D♂\uFE0F
  man_golfing_medium-dark_skin_tone\t🏌🏾\u200D♂\uFE0F
  man_golfing_medium-light_skin_tone\t🏌🏼\u200D♂\uFE0F
  man_golfing_medium_skin_tone\t🏌🏽\u200D♂\uFE0F
  man_guard\t💂\u200D♂\uFE0F
  man_guard_dark_skin_tone\t💂🏿\u200D♂\uFE0F
  man_guard_light_skin_tone\t💂🏻\u200D♂\uFE0F
  man_guard_medium-dark_skin_tone\t💂🏾\u200D♂\uFE0F
  man_guard_medium-light_skin_tone\t💂🏼\u200D♂\uFE0F
  man_guard_medium_skin_tone\t💂🏽\u200D♂\uFE0F
  man_health_worker\t👨\u200D⚕\uFE0F
  man_health_worker_dark_skin_tone\t👨🏿\u200D⚕\uFE0F
  man_health_worker_light_skin_tone\t👨🏻\u200D⚕\uFE0F
  man_health_worker_medium-dark_skin_tone\t👨🏾\u200D⚕\uFE0F
  man_health_worker_medium-light_skin_tone\t👨🏼\u200D⚕\uFE0F
  man_health_worker_medium_skin_tone\t👨🏽\u200D⚕\uFE0F
  man_in_lotus_position\t🧘\u200D♂\uFE0F
  man_in_lotus_position_dark_skin_tone\t🧘🏿\u200D♂\uFE0F
  man_in_lotus_position_light_skin_tone\t🧘🏻\u200D♂\uFE0F
  man_in_lotus_position_medium-dark_skin_tone\t🧘🏾\u200D♂\uFE0F
  man_in_lotus_position_medium-light_skin_tone\t🧘🏼\u200D♂\uFE0F
  man_in_lotus_position_medium_skin_tone\t🧘🏽\u200D♂\uFE0F
  man_in_manual_wheelchair\t👨\u200D🦽
  man_in_motorized_wheelchair\t👨\u200D🦼
  man_in_steamy_room\t🧖\u200D♂\uFE0F
  man_in_steamy_room_dark_skin_tone\t🧖🏿\u200D♂\uFE0F
  man_in_steamy_room_light_skin_tone\t🧖🏻\u200D♂\uFE0F
  man_in_steamy_room_medium-dark_skin_tone\t🧖🏾\u200D♂\uFE0F
  man_in_steamy_room_medium-light_skin_tone\t🧖🏼\u200D♂\uFE0F
  man_in_steamy_room_medium_skin_tone\t🧖🏽\u200D♂\uFE0F
  man_in_suit_levitating\t🕴
  man_in_suit_levitating_dark_skin_tone\t🕴🏿
  man_in_suit_levitating_light_skin_tone\t🕴🏻
  man_in_suit_levitating_medium-dark_skin_tone\t🕴🏾
  man_in_suit_levitating_medium-light_skin_tone\t🕴🏼
  man_in_suit_levitating_medium_skin_tone\t🕴🏽
  man_in_tuxedo\t🤵
  man_in_tuxedo_dark_skin_tone\t🤵🏿
  man_in_tuxedo_light_skin_tone\t🤵🏻
  man_in_tuxedo_medium-dark_skin_tone\t🤵🏾
  man_in_tuxedo_medium-light_skin_tone\t🤵🏼
  man_in_tuxedo_medium_skin_tone\t🤵🏽
  man_judge\t👨\u200D⚖\uFE0F
  man_judge_dark_skin_tone\t👨🏿\u200D⚖\uFE0F
  man_judge_light_skin_tone\t👨🏻\u200D⚖\uFE0F
  man_judge_medium-dark_skin_tone\t👨🏾\u200D⚖\uFE0F
  man_judge_medium-light_skin_tone\t👨🏼\u200D⚖\uFE0F
  man_judge_medium_skin_tone\t👨🏽\u200D⚖\uFE0F
  man_juggling\t🤹\u200D♂\uFE0F
  man_juggling_dark_skin_tone\t🤹🏿\u200D♂\uFE0F
  man_juggling_light_skin_tone\t🤹🏻\u200D♂\uFE0F
  man_juggling_medium-dark_skin_tone\t🤹🏾\u200D♂\uFE0F
  man_juggling_medium-light_skin_tone\t🤹🏼\u200D♂\uFE0F
  man_juggling_medium_skin_tone\t🤹🏽\u200D♂\uFE0F
  man_lifting_weights\t🏋\uFE0F\u200D♂\uFE0F
  man_lifting_weights_dark_skin_tone\t🏋🏿\u200D♂\uFE0F
  man_lifting_weights_light_skin_tone\t🏋🏻\u200D♂\uFE0F
  man_lifting_weights_medium-dark_skin_tone\t🏋🏾\u200D♂\uFE0F
  man_lifting_weights_medium-light_skin_tone\t🏋🏼\u200D♂\uFE0F
  man_lifting_weights_medium_skin_tone\t🏋🏽\u200D♂\uFE0F
  man_light_skin_tone\t👨🏻
  man_mage\t🧙\u200D♂\uFE0F
  man_mage_dark_skin_tone\t🧙🏿\u200D♂\uFE0F
  man_mage_light_skin_tone\t🧙🏻\u200D♂\uFE0F
  man_mage_medium-dark_skin_tone\t🧙🏾\u200D♂\uFE0F
  man_mage_medium-light_skin_tone\t🧙🏼\u200D♂\uFE0F
  man_mage_medium_skin_tone\t🧙🏽\u200D♂\uFE0F
  man_mechanic\t👨\u200D🔧
  man_mechanic_dark_skin_tone\t👨🏿\u200D🔧
  man_mechanic_light_skin_tone\t👨🏻\u200D🔧
  man_mechanic_medium-dark_skin_tone\t👨🏾\u200D🔧
  man_mechanic_medium-light_skin_tone\t👨🏼\u200D🔧
  man_mechanic_medium_skin_tone\t👨🏽\u200D🔧
  man_medium-dark_skin_tone\t👨🏾
  man_medium-light_skin_tone\t👨🏼
  man_medium_skin_tone\t👨🏽
  man_mountain_biking\t🚵\u200D♂\uFE0F
  man_mountain_biking_dark_skin_tone\t🚵🏿\u200D♂\uFE0F
  man_mountain_biking_light_skin_tone\t🚵🏻\u200D♂\uFE0F
  man_mountain_biking_medium-dark_skin_tone\t🚵🏾\u200D♂\uFE0F
  man_mountain_biking_medium-light_skin_tone\t🚵🏼\u200D♂\uFE0F
  man_mountain_biking_medium_skin_tone\t🚵🏽\u200D♂\uFE0F
  man_office_worker\t👨\u200D💼
  man_office_worker_dark_skin_tone\t👨🏿\u200D💼
  man_office_worker_light_skin_tone\t👨🏻\u200D💼
  man_office_worker_medium-dark_skin_tone\t👨🏾\u200D💼
  man_office_worker_medium-light_skin_tone\t👨🏼\u200D💼
  man_office_worker_medium_skin_tone\t👨🏽\u200D💼
  man_pilot\t👨\u200D✈\uFE0F
  man_pilot_dark_skin_tone\t👨🏿\u200D✈\uFE0F
  man_pilot_light_skin_tone\t👨🏻\u200D✈\uFE0F
  man_pilot_medium-dark_skin_tone\t👨🏾\u200D✈\uFE0F
  man_pilot_medium-light_skin_tone\t👨🏼\u200D✈\uFE0F
  man_pilot_medium_skin_tone\t👨🏽\u200D✈\uFE0F
  man_playing_handball\t🤾\u200D♂\uFE0F
  man_playing_handball_dark_skin_tone\t🤾🏿\u200D♂\uFE0F
  man_playing_handball_light_skin_tone\t🤾🏻\u200D♂\uFE0F
  man_playing_handball_medium-dark_skin_tone\t🤾🏾\u200D♂\uFE0F
  man_playing_handball_medium-light_skin_tone\t🤾🏼\u200D♂\uFE0F
  man_playing_handball_medium_skin_tone\t🤾🏽\u200D♂\uFE0F
  man_playing_water_polo\t🤽\u200D♂\uFE0F
  man_playing_water_polo_dark_skin_tone\t🤽🏿\u200D♂\uFE0F
  man_playing_water_polo_light_skin_tone\t🤽🏻\u200D♂\uFE0F
  man_playing_water_polo_medium-dark_skin_tone\t🤽🏾\u200D♂\uFE0F
  man_playing_water_polo_medium-light_skin_tone\t🤽🏼\u200D♂\uFE0F
  man_playing_water_polo_medium_skin_tone\t🤽🏽\u200D♂\uFE0F
  man_police_officer\t👮\u200D♂\uFE0F
  man_police_officer_dark_skin_tone\t👮🏿\u200D♂\uFE0F
  man_police_officer_light_skin_tone\t👮🏻\u200D♂\uFE0F
  man_police_officer_medium-dark_skin_tone\t👮🏾\u200D♂\uFE0F
  man_police_officer_medium-light_skin_tone\t👮🏼\u200D♂\uFE0F
  man_police_officer_medium_skin_tone\t👮🏽\u200D♂\uFE0F
  man_pouting\t🙎\u200D♂\uFE0F
  man_pouting_dark_skin_tone\t🙎🏿\u200D♂\uFE0F
  man_pouting_light_skin_tone\t🙎🏻\u200D♂\uFE0F
  man_pouting_medium-dark_skin_tone\t🙎🏾\u200D♂\uFE0F
  man_pouting_medium-light_skin_tone\t🙎🏼\u200D♂\uFE0F
  man_pouting_medium_skin_tone\t🙎🏽\u200D♂\uFE0F
  man_raising_hand\t🙋\u200D♂\uFE0F
  man_raising_hand_dark_skin_tone\t🙋🏿\u200D♂\uFE0F
  man_raising_hand_light_skin_tone\t🙋🏻\u200D♂\uFE0F
  man_raising_hand_medium-dark_skin_tone\t🙋🏾\u200D♂\uFE0F
  man_raising_hand_medium-light_skin_tone\t🙋🏼\u200D♂\uFE0F
  man_raising_hand_medium_skin_tone\t🙋🏽\u200D♂\uFE0F
  man_rowing_boat\t🚣\u200D♂\uFE0F
  man_rowing_boat_dark_skin_tone\t🚣🏿\u200D♂\uFE0F
  man_rowing_boat_light_skin_tone\t🚣🏻\u200D♂\uFE0F
  man_rowing_boat_medium-dark_skin_tone\t🚣🏾\u200D♂\uFE0F
  man_rowing_boat_medium-light_skin_tone\t🚣🏼\u200D♂\uFE0F
  man_rowing_boat_medium_skin_tone\t🚣🏽\u200D♂\uFE0F
  man_running\t🏃\u200D♂\uFE0F
  man_running_dark_skin_tone\t🏃🏿\u200D♂\uFE0F
  man_running_light_skin_tone\t🏃🏻\u200D♂\uFE0F
  man_running_medium-dark_skin_tone\t🏃🏾\u200D♂\uFE0F
  man_running_medium-light_skin_tone\t🏃🏼\u200D♂\uFE0F
  man_running_medium_skin_tone\t🏃🏽\u200D♂\uFE0F
  man_scientist\t👨\u200D🔬
  man_scientist_dark_skin_tone\t👨🏿\u200D🔬
  man_scientist_light_skin_tone\t👨🏻\u200D🔬
  man_scientist_medium-dark_skin_tone\t👨🏾\u200D🔬
  man_scientist_medium-light_skin_tone\t👨🏼\u200D🔬
  man_scientist_medium_skin_tone\t👨🏽\u200D🔬
  man_shrugging\t🤷\u200D♂\uFE0F
  man_shrugging_dark_skin_tone\t🤷🏿\u200D♂\uFE0F
  man_shrugging_light_skin_tone\t🤷🏻\u200D♂\uFE0F
  man_shrugging_medium-dark_skin_tone\t🤷🏾\u200D♂\uFE0F
  man_shrugging_medium-light_skin_tone\t🤷🏼\u200D♂\uFE0F
  man_shrugging_medium_skin_tone\t🤷🏽\u200D♂\uFE0F
  man_singer\t👨\u200D🎤
  man_singer_dark_skin_tone\t👨🏿\u200D🎤
  man_singer_light_skin_tone\t👨🏻\u200D🎤
  man_singer_medium-dark_skin_tone\t👨🏾\u200D🎤
  man_singer_medium-light_skin_tone\t👨🏼\u200D🎤
  man_singer_medium_skin_tone\t👨🏽\u200D🎤
  man_student\t👨\u200D🎓
  man_student_dark_skin_tone\t👨🏿\u200D🎓
  man_student_light_skin_tone\t👨🏻\u200D🎓
  man_student_medium-dark_skin_tone\t👨🏾\u200D🎓
  man_student_medium-light_skin_tone\t👨🏼\u200D🎓
  man_student_medium_skin_tone\t👨🏽\u200D🎓
  man_surfing\t🏄\u200D♂\uFE0F
  man_surfing_dark_skin_tone\t🏄🏿\u200D♂\uFE0F
  man_surfing_light_skin_tone\t🏄🏻\u200D♂\uFE0F
  man_surfing_medium-dark_skin_tone\t🏄🏾\u200D♂\uFE0F
  man_surfing_medium-light_skin_tone\t🏄🏼\u200D♂\uFE0F
  man_surfing_medium_skin_tone\t🏄🏽\u200D♂\uFE0F
  man_swimming\t🏊\u200D♂\uFE0F
  man_swimming_dark_skin_tone\t🏊🏿\u200D♂\uFE0F
  man_swimming_light_skin_tone\t🏊🏻\u200D♂\uFE0F
  man_swimming_medium-dark_skin_tone\t🏊🏾\u200D♂\uFE0F
  man_swimming_medium-light_skin_tone\t🏊🏼\u200D♂\uFE0F
  man_swimming_medium_skin_tone\t🏊🏽\u200D♂\uFE0F
  man_teacher\t👨\u200D🏫
  man_teacher_dark_skin_tone\t👨🏿\u200D🏫
  man_teacher_light_skin_tone\t👨🏻\u200D🏫
  man_teacher_medium-dark_skin_tone\t👨🏾\u200D🏫
  man_teacher_medium-light_skin_tone\t👨🏼\u200D🏫
  man_teacher_medium_skin_tone\t👨🏽\u200D🏫
  man_technologist\t👨\u200D💻
  man_technologist_dark_skin_tone\t👨🏿\u200D💻
  man_technologist_light_skin_tone\t👨🏻\u200D💻
  man_technologist_medium-dark_skin_tone\t👨🏾\u200D💻
  man_technologist_medium-light_skin_tone\t👨🏼\u200D💻
  man_technologist_medium_skin_tone\t👨🏽\u200D💻
  man_tipping_hand\t💁\u200D♂\uFE0F
  man_tipping_hand_dark_skin_tone\t💁🏿\u200D♂\uFE0F
  man_tipping_hand_light_skin_tone\t💁🏻\u200D♂\uFE0F
  man_tipping_hand_medium-dark_skin_tone\t💁🏾\u200D♂\uFE0F
  man_tipping_hand_medium-light_skin_tone\t💁🏼\u200D♂\uFE0F
  man_tipping_hand_medium_skin_tone\t💁🏽\u200D♂\uFE0F
  man_vampire\t🧛\u200D♂\uFE0F
  man_vampire_dark_skin_tone\t🧛🏿\u200D♂\uFE0F
  man_vampire_light_skin_tone\t🧛🏻\u200D♂\uFE0F
  man_vampire_medium-dark_skin_tone\t🧛🏾\u200D♂\uFE0F
  man_vampire_medium-light_skin_tone\t🧛🏼\u200D♂\uFE0F
  man_vampire_medium_skin_tone\t🧛🏽\u200D♂\uFE0F
  man_walking\t🚶\u200D♂\uFE0F
  man_walking_dark_skin_tone\t🚶🏿\u200D♂\uFE0F
  man_walking_light_skin_tone\t🚶🏻\u200D♂\uFE0F
  man_walking_medium-dark_skin_tone\t🚶🏾\u200D♂\uFE0F
  man_walking_medium-light_skin_tone\t🚶🏼\u200D♂\uFE0F
  man_walking_medium_skin_tone\t🚶🏽\u200D♂\uFE0F
  man_wearing_turban\t👳\u200D♂\uFE0F
  man_wearing_turban_dark_skin_tone\t👳🏿\u200D♂\uFE0F
  man_wearing_turban_light_skin_tone\t👳🏻\u200D♂\uFE0F
  man_wearing_turban_medium-dark_skin_tone\t👳🏾\u200D♂\uFE0F
  man_wearing_turban_medium-light_skin_tone\t👳🏼\u200D♂\uFE0F
  man_wearing_turban_medium_skin_tone\t👳🏽\u200D♂\uFE0F
  man_with_probing_cane\t👨\u200D🦯
  man_with_chinese_cap\t👲
  man_with_chinese_cap_dark_skin_tone\t👲🏿
  man_with_chinese_cap_light_skin_tone\t👲🏻
  man_with_chinese_cap_medium-dark_skin_tone\t👲🏾
  man_with_chinese_cap_medium-light_skin_tone\t👲🏼
  man_with_chinese_cap_medium_skin_tone\t👲🏽
  man_zombie\t🧟\u200D♂\uFE0F
  mango\t🥭
  mantelpiece_clock\t🕰
  manual_wheelchair\t🦽
  man’s_shoe\t👞
  map_of_japan\t🗾
  maple_leaf\t🍁
  martial_arts_uniform\t🥋
  mate\t🧉
  meat_on_bone\t🍖
  mechanical_arm\t🦾
  mechanical_leg\t🦿
  medical_symbol\t⚕
  megaphone\t📣
  melon\t🍈
  memo\t📝
  men_with_bunny_ears\t👯\u200D♂\uFE0F
  men_wrestling\t🤼\u200D♂\uFE0F
  menorah\t🕎
  men’s_room\t🚹
  mermaid\t🧜\u200D♀\uFE0F
  mermaid_dark_skin_tone\t🧜🏿\u200D♀\uFE0F
  mermaid_light_skin_tone\t🧜🏻\u200D♀\uFE0F
  mermaid_medium-dark_skin_tone\t🧜🏾\u200D♀\uFE0F
  mermaid_medium-light_skin_tone\t🧜🏼\u200D♀\uFE0F
  mermaid_medium_skin_tone\t🧜🏽\u200D♀\uFE0F
  merman\t🧜\u200D♂\uFE0F
  merman_dark_skin_tone\t🧜🏿\u200D♂\uFE0F
  merman_light_skin_tone\t🧜🏻\u200D♂\uFE0F
  merman_medium-dark_skin_tone\t🧜🏾\u200D♂\uFE0F
  merman_medium-light_skin_tone\t🧜🏼\u200D♂\uFE0F
  merman_medium_skin_tone\t🧜🏽\u200D♂\uFE0F
  merperson\t🧜
  merperson_dark_skin_tone\t🧜🏿
  merperson_light_skin_tone\t🧜🏻
  merperson_medium-dark_skin_tone\t🧜🏾
  merperson_medium-light_skin_tone\t🧜🏼
  merperson_medium_skin_tone\t🧜🏽
  metro\t🚇
  microbe\t🦠
  microphone\t🎤
  microscope\t🔬
  middle_finger\t🖕
  middle_finger_dark_skin_tone\t🖕🏿
  middle_finger_light_skin_tone\t🖕🏻
  middle_finger_medium-dark_skin_tone\t🖕🏾
  middle_finger_medium-light_skin_tone\t🖕🏼
  middle_finger_medium_skin_tone\t🖕🏽
  military_medal\t🎖
  milky_way\t🌌
  minibus\t🚐
  moai\t🗿
  mobile_phone\t📱
  mobile_phone_off\t📴
  mobile_phone_with_arrow\t📲
  money-mouth_face\t🤑
  money_bag\t💰
  money_with_wings\t💸
  monkey\t🐒
  monkey_face\t🐵
  monorail\t🚝
  moon_cake\t🥮
  moon_viewing_ceremony\t🎑
  mosque\t🕌
  mosquito\t🦟
  motor_boat\t🛥
  motor_scooter\t🛵
  motorcycle\t🏍
  motorized_wheelchair\t🦼
  motorway\t🛣
  mount_fuji\t🗻
  mountain\t⛰
  mountain_cableway\t🚠
  mountain_railway\t🚞
  mouse\t🐭
  mouse_face\t🐭
  mouth\t👄
  movie_camera\t🎥
  mushroom\t🍄
  musical_keyboard\t🎹
  musical_note\t🎵
  musical_notes\t🎶
  musical_score\t🎼
  muted_speaker\t🔇
  nail_polish\t💅
  nail_polish_dark_skin_tone\t💅🏿
  nail_polish_light_skin_tone\t💅🏻
  nail_polish_medium-dark_skin_tone\t💅🏾
  nail_polish_medium-light_skin_tone\t💅🏼
  nail_polish_medium_skin_tone\t💅🏽
  name_badge\t📛
  national_park\t🏞
  nauseated_face\t🤢
  nazar_amulet\t🧿
  necktie\t👔
  nerd_face\t🤓
  neutral_face\t😐
  new_moon\t🌑
  new_moon_face\t🌚
  newspaper\t📰
  next_track_button\t⏭
  night_with_stars\t🌃
  nine-thirty\t🕤
  nine_o’clock\t🕘
  no_bicycles\t🚳
  no_entry\t⛔
  no_littering\t🚯
  no_mobile_phones\t📵
  no_one_under_eighteen\t🔞
  no_pedestrians\t🚷
  no_smoking\t🚭
  non-potable_water\t🚱
  nose\t👃
  nose_dark_skin_tone\t👃🏿
  nose_light_skin_tone\t👃🏻
  nose_medium-dark_skin_tone\t👃🏾
  nose_medium-light_skin_tone\t👃🏼
  nose_medium_skin_tone\t👃🏽
  notebook\t📓
  notebook_with_decorative_cover\t📔
  nut_and_bolt\t🔩
  octopus\t🐙
  oden\t🍢
  office_building\t🏢
  ogre\t👹
  oil_drum\t🛢
  old_key\t🗝
  old_man\t👴
  old_man_dark_skin_tone\t👴🏿
  old_man_light_skin_tone\t👴🏻
  old_man_medium-dark_skin_tone\t👴🏾
  old_man_medium-light_skin_tone\t👴🏼
  old_man_medium_skin_tone\t👴🏽
  old_woman\t👵
  old_woman_dark_skin_tone\t👵🏿
  old_woman_light_skin_tone\t👵🏻
  old_woman_medium-dark_skin_tone\t👵🏾
  old_woman_medium-light_skin_tone\t👵🏼
  old_woman_medium_skin_tone\t👵🏽
  older_adult\t🧓
  older_adult_dark_skin_tone\t🧓🏿
  older_adult_light_skin_tone\t🧓🏻
  older_adult_medium-dark_skin_tone\t🧓🏾
  older_adult_medium-light_skin_tone\t🧓🏼
  older_adult_medium_skin_tone\t🧓🏽
  om\t🕉
  oncoming_automobile\t🚘
  oncoming_bus\t🚍
  oncoming_fist\t👊
  oncoming_fist_dark_skin_tone\t👊🏿
  oncoming_fist_light_skin_tone\t👊🏻
  oncoming_fist_medium-dark_skin_tone\t👊🏾
  oncoming_fist_medium-light_skin_tone\t👊🏼
  oncoming_fist_medium_skin_tone\t👊🏽
  oncoming_police_car\t🚔
  oncoming_taxi\t🚖
  one-piece_swimsuit\t🩱
  one-thirty\t🕜
  one_o’clock\t🕐
  onion\t🧅
  open_book\t📖
  open_file_folder\t📂
  open_hands\t👐
  open_hands_dark_skin_tone\t👐🏿
  open_hands_light_skin_tone\t👐🏻
  open_hands_medium-dark_skin_tone\t👐🏾
  open_hands_medium-light_skin_tone\t👐🏼
  open_hands_medium_skin_tone\t👐🏽
  open_mailbox_with_lowered_flag\t📭
  open_mailbox_with_raised_flag\t📬
  optical_disk\t💿
  orange_book\t📙
  orange_circle\t🟠
  orange_heart\t🧡
  orange_square\t🟧
  orangutan\t🦧
  orthodox_cross\t☦
  otter\t🦦
  outbox_tray\t📤
  owl\t🦉
  ox\t🐂
  oyster\t🦪
  package\t📦
  page_facing_up\t📄
  page_with_curl\t📃
  pager\t📟
  paintbrush\t🖌
  palm_tree\t🌴
  palms_up_together\t🤲
  palms_up_together_dark_skin_tone\t🤲🏿
  palms_up_together_light_skin_tone\t🤲🏻
  palms_up_together_medium-dark_skin_tone\t🤲🏾
  palms_up_together_medium-light_skin_tone\t🤲🏼
  palms_up_together_medium_skin_tone\t🤲🏽
  pancakes\t🥞
  panda_face\t🐼
  paperclip\t📎
  parrot\t🦜
  part_alternation_mark\t〽
  party_popper\t🎉
  partying_face\t🥳
  passenger_ship\t🛳
  passport_control\t🛂
  pause_button\t⏸
  paw_prints\t🐾
  peace_symbol\t☮
  peach\t🍑
  peacock\t🦚
  peanuts\t🥜
  pear\t🍐
  pen\t🖊
  pencil\t📝
  penguin\t🐧
  pensive_face\t😔
  people_holding_hands\t🧑\u200D🤝\u200D🧑
  people_with_bunny_ears\t👯
  people_wrestling\t🤼
  performing_arts\t🎭
  persevering_face\t😣
  person_biking\t🚴
  person_biking_dark_skin_tone\t🚴🏿
  person_biking_light_skin_tone\t🚴🏻
  person_biking_medium-dark_skin_tone\t🚴🏾
  person_biking_medium-light_skin_tone\t🚴🏼
  person_biking_medium_skin_tone\t🚴🏽
  person_bouncing_ball\t⛹
  person_bouncing_ball_dark_skin_tone\t⛹🏿
  person_bouncing_ball_light_skin_tone\t⛹🏻
  person_bouncing_ball_medium-dark_skin_tone\t⛹🏾
  person_bouncing_ball_medium-light_skin_tone\t⛹🏼
  person_bouncing_ball_medium_skin_tone\t⛹🏽
  person_bowing\t🙇
  person_bowing_dark_skin_tone\t🙇🏿
  person_bowing_light_skin_tone\t🙇🏻
  person_bowing_medium-dark_skin_tone\t🙇🏾
  person_bowing_medium-light_skin_tone\t🙇🏼
  person_bowing_medium_skin_tone\t🙇🏽
  person_cartwheeling\t🤸
  person_cartwheeling_dark_skin_tone\t🤸🏿
  person_cartwheeling_light_skin_tone\t🤸🏻
  person_cartwheeling_medium-dark_skin_tone\t🤸🏾
  person_cartwheeling_medium-light_skin_tone\t🤸🏼
  person_cartwheeling_medium_skin_tone\t🤸🏽
  person_climbing\t🧗
  person_climbing_dark_skin_tone\t🧗🏿
  person_climbing_light_skin_tone\t🧗🏻
  person_climbing_medium-dark_skin_tone\t🧗🏾
  person_climbing_medium-light_skin_tone\t🧗🏼
  person_climbing_medium_skin_tone\t🧗🏽
  person_facepalming\t🤦
  person_facepalming_dark_skin_tone\t🤦🏿
  person_facepalming_light_skin_tone\t🤦🏻
  person_facepalming_medium-dark_skin_tone\t🤦🏾
  person_facepalming_medium-light_skin_tone\t🤦🏼
  person_facepalming_medium_skin_tone\t🤦🏽
  person_fencing\t🤺
  person_frowning\t🙍
  person_frowning_dark_skin_tone\t🙍🏿
  person_frowning_light_skin_tone\t🙍🏻
  person_frowning_medium-dark_skin_tone\t🙍🏾
  person_frowning_medium-light_skin_tone\t🙍🏼
  person_frowning_medium_skin_tone\t🙍🏽
  person_gesturing_no\t🙅
  person_gesturing_no_dark_skin_tone\t🙅🏿
  person_gesturing_no_light_skin_tone\t🙅🏻
  person_gesturing_no_medium-dark_skin_tone\t🙅🏾
  person_gesturing_no_medium-light_skin_tone\t🙅🏼
  person_gesturing_no_medium_skin_tone\t🙅🏽
  person_gesturing_ok\t🙆
  person_gesturing_ok_dark_skin_tone\t🙆🏿
  person_gesturing_ok_light_skin_tone\t🙆🏻
  person_gesturing_ok_medium-dark_skin_tone\t🙆🏾
  person_gesturing_ok_medium-light_skin_tone\t🙆🏼
  person_gesturing_ok_medium_skin_tone\t🙆🏽
  person_getting_haircut\t💇
  person_getting_haircut_dark_skin_tone\t💇🏿
  person_getting_haircut_light_skin_tone\t💇🏻
  person_getting_haircut_medium-dark_skin_tone\t💇🏾
  person_getting_haircut_medium-light_skin_tone\t💇🏼
  person_getting_haircut_medium_skin_tone\t💇🏽
  person_getting_massage\t💆
  person_getting_massage_dark_skin_tone\t💆🏿
  person_getting_massage_light_skin_tone\t💆🏻
  person_getting_massage_medium-dark_skin_tone\t💆🏾
  person_getting_massage_medium-light_skin_tone\t💆🏼
  person_getting_massage_medium_skin_tone\t💆🏽
  person_golfing\t🏌
  person_golfing_dark_skin_tone\t🏌🏿
  person_golfing_light_skin_tone\t🏌🏻
  person_golfing_medium-dark_skin_tone\t🏌🏾
  person_golfing_medium-light_skin_tone\t🏌🏼
  person_golfing_medium_skin_tone\t🏌🏽
  person_in_bed\t🛌
  person_in_bed_dark_skin_tone\t🛌🏿
  person_in_bed_light_skin_tone\t🛌🏻
  person_in_bed_medium-dark_skin_tone\t🛌🏾
  person_in_bed_medium-light_skin_tone\t🛌🏼
  person_in_bed_medium_skin_tone\t🛌🏽
  person_in_lotus_position\t🧘
  person_in_lotus_position_dark_skin_tone\t🧘🏿
  person_in_lotus_position_light_skin_tone\t🧘🏻
  person_in_lotus_position_medium-dark_skin_tone\t🧘🏾
  person_in_lotus_position_medium-light_skin_tone\t🧘🏼
  person_in_lotus_position_medium_skin_tone\t🧘🏽
  person_in_steamy_room\t🧖
  person_in_steamy_room_dark_skin_tone\t🧖🏿
  person_in_steamy_room_light_skin_tone\t🧖🏻
  person_in_steamy_room_medium-dark_skin_tone\t🧖🏾
  person_in_steamy_room_medium-light_skin_tone\t🧖🏼
  person_in_steamy_room_medium_skin_tone\t🧖🏽
  person_juggling\t🤹
  person_juggling_dark_skin_tone\t🤹🏿
  person_juggling_light_skin_tone\t🤹🏻
  person_juggling_medium-dark_skin_tone\t🤹🏾
  person_juggling_medium-light_skin_tone\t🤹🏼
  person_juggling_medium_skin_tone\t🤹🏽
  person_kneeling\t🧎
  person_lifting_weights\t🏋
  person_lifting_weights_dark_skin_tone\t🏋🏿
  person_lifting_weights_light_skin_tone\t🏋🏻
  person_lifting_weights_medium-dark_skin_tone\t🏋🏾
  person_lifting_weights_medium-light_skin_tone\t🏋🏼
  person_lifting_weights_medium_skin_tone\t🏋🏽
  person_mountain_biking\t🚵
  person_mountain_biking_dark_skin_tone\t🚵🏿
  person_mountain_biking_light_skin_tone\t🚵🏻
  person_mountain_biking_medium-dark_skin_tone\t🚵🏾
  person_mountain_biking_medium-light_skin_tone\t🚵🏼
  person_mountain_biking_medium_skin_tone\t🚵🏽
  person_playing_handball\t🤾
  person_playing_handball_dark_skin_tone\t🤾🏿
  person_playing_handball_light_skin_tone\t🤾🏻
  person_playing_handball_medium-dark_skin_tone\t🤾🏾
  person_playing_handball_medium-light_skin_tone\t🤾🏼
  person_playing_handball_medium_skin_tone\t🤾🏽
  person_playing_water_polo\t🤽
  person_playing_water_polo_dark_skin_tone\t🤽🏿
  person_playing_water_polo_light_skin_tone\t🤽🏻
  person_playing_water_polo_medium-dark_skin_tone\t🤽🏾
  person_playing_water_polo_medium-light_skin_tone\t🤽🏼
  person_playing_water_polo_medium_skin_tone\t🤽🏽
  person_pouting\t🙎
  person_pouting_dark_skin_tone\t🙎🏿
  person_pouting_light_skin_tone\t🙎🏻
  person_pouting_medium-dark_skin_tone\t🙎🏾
  person_pouting_medium-light_skin_tone\t🙎🏼
  person_pouting_medium_skin_tone\t🙎🏽
  person_raising_hand\t🙋
  person_raising_hand_dark_skin_tone\t🙋🏿
  person_raising_hand_light_skin_tone\t🙋🏻
  person_raising_hand_medium-dark_skin_tone\t🙋🏾
  person_raising_hand_medium-light_skin_tone\t🙋🏼
  person_raising_hand_medium_skin_tone\t🙋🏽
  person_rowing_boat\t🚣
  person_rowing_boat_dark_skin_tone\t🚣🏿
  person_rowing_boat_light_skin_tone\t🚣🏻
  person_rowing_boat_medium-dark_skin_tone\t🚣🏾
  person_rowing_boat_medium-light_skin_tone\t🚣🏼
  person_rowing_boat_medium_skin_tone\t🚣🏽
  person_running\t🏃
  person_running_dark_skin_tone\t🏃🏿
  person_running_light_skin_tone\t🏃🏻
  person_running_medium-dark_skin_tone\t🏃🏾
  person_running_medium-light_skin_tone\t🏃🏼
  person_running_medium_skin_tone\t🏃🏽
  person_shrugging\t🤷
  person_shrugging_dark_skin_tone\t🤷🏿
  person_shrugging_light_skin_tone\t🤷🏻
  person_shrugging_medium-dark_skin_tone\t🤷🏾
  person_shrugging_medium-light_skin_tone\t🤷🏼
  person_shrugging_medium_skin_tone\t🤷🏽
  person_standing\t🧍
  person_surfing\t🏄
  person_surfing_dark_skin_tone\t🏄🏿
  person_surfing_light_skin_tone\t🏄🏻
  person_surfing_medium-dark_skin_tone\t🏄🏾
  person_surfing_medium-light_skin_tone\t🏄🏼
  person_surfing_medium_skin_tone\t🏄🏽
  person_swimming\t🏊
  person_swimming_dark_skin_tone\t🏊🏿
  person_swimming_light_skin_tone\t🏊🏻
  person_swimming_medium-dark_skin_tone\t🏊🏾
  person_swimming_medium-light_skin_tone\t🏊🏼
  person_swimming_medium_skin_tone\t🏊🏽
  person_taking_bath\t🛀
  person_taking_bath_dark_skin_tone\t🛀🏿
  person_taking_bath_light_skin_tone\t🛀🏻
  person_taking_bath_medium-dark_skin_tone\t🛀🏾
  person_taking_bath_medium-light_skin_tone\t🛀🏼
  person_taking_bath_medium_skin_tone\t🛀🏽
  person_tipping_hand\t💁
  person_tipping_hand_dark_skin_tone\t💁🏿
  person_tipping_hand_light_skin_tone\t💁🏻
  person_tipping_hand_medium-dark_skin_tone\t💁🏾
  person_tipping_hand_medium-light_skin_tone\t💁🏼
  person_tipping_hand_medium_skin_tone\t💁🏽
  person_walking\t🚶
  person_walking_dark_skin_tone\t🚶🏿
  person_walking_light_skin_tone\t🚶🏻
  person_walking_medium-dark_skin_tone\t🚶🏾
  person_walking_medium-light_skin_tone\t🚶🏼
  person_walking_medium_skin_tone\t🚶🏽
  person_wearing_turban\t👳
  person_wearing_turban_dark_skin_tone\t👳🏿
  person_wearing_turban_light_skin_tone\t👳🏻
  person_wearing_turban_medium-dark_skin_tone\t👳🏾
  person_wearing_turban_medium-light_skin_tone\t👳🏼
  person_wearing_turban_medium_skin_tone\t👳🏽
  petri_dish\t🧫
  pick\t⛏
  pie\t🥧
  pig\t🐷
  pig_face\t🐷
  pig_nose\t🐽
  pile_of_poo\t💩
  pill\t💊
  pinching_hand\t🤏
  pine_decoration\t🎍
  pineapple\t🍍
  ping_pong\t🏓
  pirate_flag\t🏴\u200D☠\uFE0F
  pistol\t🔫
  pizza\t🍕
  place_of_worship\t🛐
  play_button\t▶
  play_or_pause_button\t⏯
  pleading_face\t🥺
  police_car\t🚓
  police_car_light\t🚨
  police_officer\t👮
  police_officer_dark_skin_tone\t👮🏿
  police_officer_light_skin_tone\t👮🏻
  police_officer_medium-dark_skin_tone\t👮🏾
  police_officer_medium-light_skin_tone\t👮🏼
  police_officer_medium_skin_tone\t👮🏽
  poodle\t🐩
  pool_8_ball\t🎱
  popcorn\t🍿
  post_office\t🏣
  postal_horn\t📯
  postbox\t📮
  pot_of_food\t🍲
  potable_water\t🚰
  potato\t🥔
  poultry_leg\t🍗
  pound_banknote\t💷
  pouting_cat_face\t😾
  pouting_face\t😡
  prayer_beads\t📿
  pregnant_woman\t🤰
  pregnant_woman_dark_skin_tone\t🤰🏿
  pregnant_woman_light_skin_tone\t🤰🏻
  pregnant_woman_medium-dark_skin_tone\t🤰🏾
  pregnant_woman_medium-light_skin_tone\t🤰🏼
  pregnant_woman_medium_skin_tone\t🤰🏽
  pretzel\t🥨
  probing_cane\t🦯
  prince\t🤴
  prince_dark_skin_tone\t🤴🏿
  prince_light_skin_tone\t🤴🏻
  prince_medium-dark_skin_tone\t🤴🏾
  prince_medium-light_skin_tone\t🤴🏼
  prince_medium_skin_tone\t🤴🏽
  princess\t👸
  princess_dark_skin_tone\t👸🏿
  princess_light_skin_tone\t👸🏻
  princess_medium-dark_skin_tone\t👸🏾
  princess_medium-light_skin_tone\t👸🏼
  princess_medium_skin_tone\t👸🏽
  printer\t🖨
  prohibited\t🚫
  purple_circle\t🟣
  purple_heart\t💜
  purple_square\t🟪
  purse\t👛
  pushpin\t📌
  question_mark\t❓
  rabbit\t🐰
  rabbit_face\t🐰
  raccoon\t🦝
  racing_car\t🏎
  radio\t📻
  radio_button\t🔘
  radioactive\t☢
  railway_car\t🚃
  railway_track\t🛤
  rainbow\t🌈
  rainbow_flag\t🏳\uFE0F\u200D🌈
  raised_back_of_hand\t🤚
  raised_back_of_hand_dark_skin_tone\t🤚🏿
  raised_back_of_hand_light_skin_tone\t🤚🏻
  raised_back_of_hand_medium-dark_skin_tone\t🤚🏾
  raised_back_of_hand_medium-light_skin_tone\t🤚🏼
  raised_back_of_hand_medium_skin_tone\t🤚🏽
  raised_fist\t✊
  raised_fist_dark_skin_tone\t✊🏿
  raised_fist_light_skin_tone\t✊🏻
  raised_fist_medium-dark_skin_tone\t✊🏾
  raised_fist_medium-light_skin_tone\t✊🏼
  raised_fist_medium_skin_tone\t✊🏽
  raised_hand\t✋
  raised_hand_dark_skin_tone\t✋🏿
  raised_hand_light_skin_tone\t✋🏻
  raised_hand_medium-dark_skin_tone\t✋🏾
  raised_hand_medium-light_skin_tone\t✋🏼
  raised_hand_medium_skin_tone\t✋🏽
  raising_hands\t🙌
  raising_hands_dark_skin_tone\t🙌🏿
  raising_hands_light_skin_tone\t🙌🏻
  raising_hands_medium-dark_skin_tone\t🙌🏾
  raising_hands_medium-light_skin_tone\t🙌🏼
  raising_hands_medium_skin_tone\t🙌🏽
  ram\t🐏
  rat\t🐀
  razor\t🪒
  ringed_planet\t🪐
  receipt\t🧾
  record_button\t⏺
  recycling_symbol\t♻
  red_apple\t🍎
  red_circle\t🔴
  red_envelope\t🧧
  red_hair\t🦰
  red-haired_man\t👨\u200D🦰
  red-haired_woman\t👩\u200D🦰
  red_heart\t❤
  red_paper_lantern\t🏮
  red_square\t🟥
  red_triangle_pointed_down\t🔻
  red_triangle_pointed_up\t🔺
  registered\t®
  relieved_face\t😌
  reminder_ribbon\t🎗
  repeat_button\t🔁
  repeat_single_button\t🔂
  rescue_worker’s_helmet\t⛑
  restroom\t🚻
  reverse_button\t◀
  revolving_hearts\t💞
  rhinoceros\t🦏
  ribbon\t🎀
  rice_ball\t🍙
  rice_cracker\t🍘
  right-facing_fist\t🤜
  right-facing_fist_dark_skin_tone\t🤜🏿
  right-facing_fist_light_skin_tone\t🤜🏻
  right-facing_fist_medium-dark_skin_tone\t🤜🏾
  right-facing_fist_medium-light_skin_tone\t🤜🏼
  right-facing_fist_medium_skin_tone\t🤜🏽
  right_anger_bubble\t🗯
  right_arrow\t➡
  right_arrow_curving_down\t⤵
  right_arrow_curving_left\t↩
  right_arrow_curving_up\t⤴
  ring\t💍
  roasted_sweet_potato\t🍠
  robot_face\t🤖
  rocket\t🚀
  roll_of_paper\t🧻
  rolled-up_newspaper\t🗞
  roller_coaster\t🎢
  rolling_on_the_floor_laughing\t🤣
  rooster\t🐓
  rose\t🌹
  rosette\t🏵
  round_pushpin\t📍
  rugby_football\t🏉
  running_shirt\t🎽
  running_shoe\t👟
  sad_but_relieved_face\t😥
  safety_pin\t🧷
  safety_vest\t🦺
  salt\t🧂
  sailboat\t⛵
  sake\t🍶
  sandwich\t🥪
  sari\t🥻
  satellite\t📡
  satellite_antenna\t📡
  sauropod\t🦕
  saxophone\t🎷
  scarf\t🧣
  school\t🏫
  school_backpack\t🎒
  scissors\t✂
  scorpion\t🦂
  scroll\t📜
  seat\t💺
  see-no-evil_monkey\t🙈
  seedling\t🌱
  selfie\t🤳
  selfie_dark_skin_tone\t🤳🏿
  selfie_light_skin_tone\t🤳🏻
  selfie_medium-dark_skin_tone\t🤳🏾
  selfie_medium-light_skin_tone\t🤳🏼
  selfie_medium_skin_tone\t🤳🏽
  service_dog\t🐕\u200D🦺
  seven-thirty\t🕢
  seven_o’clock\t🕖
  shallow_pan_of_food\t🥘
  shamrock\t☘
  shark\t🦈
  shaved_ice\t🍧
  sheaf_of_rice\t🌾
  shield\t🛡
  shinto_shrine\t⛩
  ship\t🚢
  shooting_star\t🌠
  shopping_bags\t🛍
  shopping_cart\t🛒
  shortcake\t🍰
  shorts\t🩳
  shower\t🚿
  shrimp\t🦐
  shuffle_tracks_button\t🔀
  shushing_face\t🤫
  sign_of_the_horns\t🤘
  sign_of_the_horns_dark_skin_tone\t🤘🏿
  sign_of_the_horns_light_skin_tone\t🤘🏻
  sign_of_the_horns_medium-dark_skin_tone\t🤘🏾
  sign_of_the_horns_medium-light_skin_tone\t🤘🏼
  sign_of_the_horns_medium_skin_tone\t🤘🏽
  six-thirty\t🕡
  six_o’clock\t🕕
  skateboard\t🛹
  skier\t⛷
  skis\t🎿
  skull\t💀
  skull_and_crossbones\t☠
  skunk\t🦨
  sled\t🛷
  sleeping_face\t😴
  sleepy_face\t😪
  slightly_frowning_face\t🙁
  slightly_smiling_face\t🙂
  slot_machine\t🎰
  sloth\t🦥
  small_airplane\t🛩
  small_blue_diamond\t🔹
  small_orange_diamond\t🔸
  smiling_cat_face_with_heart-eyes\t😻
  smiling_face\t☺
  smiling_face_with_halo\t😇
  smiling_face_with_3_hearts\t🥰
  smiling_face_with_heart-eyes\t😍
  smiling_face_with_horns\t😈
  smiling_face_with_smiling_eyes\t😊
  smiling_face_with_sunglasses\t😎
  smirking_face\t😏
  snail\t🐌
  snake\t🐍
  sneezing_face\t🤧
  snow-capped_mountain\t🏔
  snowboarder\t🏂
  snowboarder_dark_skin_tone\t🏂🏿
  snowboarder_light_skin_tone\t🏂🏻
  snowboarder_medium-dark_skin_tone\t🏂🏾
  snowboarder_medium-light_skin_tone\t🏂🏼
  snowboarder_medium_skin_tone\t🏂🏽
  snowflake\t❄
  snowman\t☃
  snowman_without_snow\t⛄
  soap\t🧼
  soccer_ball\t⚽
  socks\t🧦
  softball\t🥎
  soft_ice_cream\t🍦
  spade_suit\t♠
  spaghetti\t🍝
  sparkle\t❇
  sparkler\t🎇
  sparkles\t✨
  sparkling_heart\t💖
  speak-no-evil_monkey\t🙊
  speaker_high_volume\t🔊
  speaker_low_volume\t🔈
  speaker_medium_volume\t🔉
  speaking_head\t🗣
  speech_balloon\t💬
  speedboat\t🚤
  spider\t🕷
  spider_web\t🕸
  spiral_calendar\t🗓
  spiral_notepad\t🗒
  spiral_shell\t🐚
  spoon\t🥄
  sponge\t🧽
  sport_utility_vehicle\t🚙
  sports_medal\t🏅
  spouting_whale\t🐳
  squid\t🦑
  squinting_face_with_tongue\t😝
  stadium\t🏟
  star-struck\t🤩
  star_and_crescent\t☪
  star_of_david\t✡
  station\t🚉
  steaming_bowl\t🍜
  stethoscope\t🩺
  stop_button\t⏹
  stop_sign\t🛑
  stopwatch\t⏱
  straight_ruler\t📏
  strawberry\t🍓
  studio_microphone\t🎙
  stuffed_flatbread\t🥙
  sun\t☀
  sun_behind_cloud\t⛅
  sun_behind_large_cloud\t🌥
  sun_behind_rain_cloud\t🌦
  sun_behind_small_cloud\t🌤
  sun_with_face\t🌞
  sunflower\t🌻
  sunglasses\t😎
  sunrise\t🌅
  sunrise_over_mountains\t🌄
  sunset\t🌇
  superhero\t🦸
  supervillain\t🦹
  sushi\t🍣
  suspension_railway\t🚟
  swan\t🦢
  sweat_droplets\t💦
  synagogue\t🕍
  syringe\t💉
  t-shirt\t👕
  taco\t🌮
  takeout_box\t🥡
  tanabata_tree\t🎋
  tangerine\t🍊
  taxi\t🚕
  teacup_without_handle\t🍵
  tear-off_calendar\t📆
  teddy_bear\t🧸
  telephone\t☎
  telephone_receiver\t📞
  telescope\t🔭
  television\t📺
  ten-thirty\t🕥
  ten_o’clock\t🕙
  tennis\t🎾
  tent\t⛺
  test_tube\t🧪
  thermometer\t🌡
  thinking_face\t🤔
  thought_balloon\t💭
  thread\t🧵
  three-thirty\t🕞
  three_o’clock\t🕒
  thumbs_down\t👎
  thumbs_down_dark_skin_tone\t👎🏿
  thumbs_down_light_skin_tone\t👎🏻
  thumbs_down_medium-dark_skin_tone\t👎🏾
  thumbs_down_medium-light_skin_tone\t👎🏼
  thumbs_down_medium_skin_tone\t👎🏽
  thumbs_up\t👍
  thumbs_up_dark_skin_tone\t👍🏿
  thumbs_up_light_skin_tone\t👍🏻
  thumbs_up_medium-dark_skin_tone\t👍🏾
  thumbs_up_medium-light_skin_tone\t👍🏼
  thumbs_up_medium_skin_tone\t👍🏽
  ticket\t🎫
  tiger\t🐯
  tiger_face\t🐯
  timer_clock\t⏲
  tired_face\t😫
  toolbox\t🧰
  toilet\t🚽
  tomato\t🍅
  tongue\t👅
  tooth\t🦷
  top_hat\t🎩
  tornado\t🌪
  trackball\t🖲
  tractor\t🚜
  trade_mark\t™
  train\t🚋
  tram\t🚊
  tram_car\t🚋
  triangular_flag\t🚩
  triangular_ruler\t📐
  trident_emblem\t🔱
  trolleybus\t🚎
  trophy\t🏆
  tropical_drink\t🍹
  tropical_fish\t🐠
  trumpet\t🎺
  tulip\t🌷
  tumbler_glass\t🥃
  turtle\t🐢
  twelve-thirty\t🕧
  twelve_o’clock\t🕛
  two-hump_camel\t🐫
  two-thirty\t🕝
  two_hearts\t💕
  two_men_holding_hands\t👬
  two_o’clock\t🕑
  two_women_holding_hands\t👭
  umbrella\t☂
  umbrella_on_ground\t⛱
  umbrella_with_rain_drops\t☔
  unamused_face\t😒
  unicorn_face\t🦄
  unlocked\t🔓
  up-down_arrow\t↕
  up-left_arrow\t↖
  up-right_arrow\t↗
  up_arrow\t⬆
  upside-down_face\t🙃
  upwards_button\t🔼
  vampire\t🧛
  vampire_dark_skin_tone\t🧛🏿
  vampire_light_skin_tone\t🧛🏻
  vampire_medium-dark_skin_tone\t🧛🏾
  vampire_medium-light_skin_tone\t🧛🏼
  vampire_medium_skin_tone\t🧛🏽
  vertical_traffic_light\t🚦
  vibration_mode\t📳
  victory_hand\t✌
  victory_hand_dark_skin_tone\t✌🏿
  victory_hand_light_skin_tone\t✌🏻
  victory_hand_medium-dark_skin_tone\t✌🏾
  victory_hand_medium-light_skin_tone\t✌🏼
  victory_hand_medium_skin_tone\t✌🏽
  video_camera\t📹
  video_game\t🎮
  videocassette\t📼
  violin\t🎻
  volcano\t🌋
  volleyball\t🏐
  vulcan_salute\t🖖
  vulcan_salute_dark_skin_tone\t🖖🏿
  vulcan_salute_light_skin_tone\t🖖🏻
  vulcan_salute_medium-dark_skin_tone\t🖖🏾
  vulcan_salute_medium-light_skin_tone\t🖖🏼
  vulcan_salute_medium_skin_tone\t🖖🏽
  waffle\t🧇
  waning_crescent_moon\t🌘
  waning_gibbous_moon\t🌖
  warning\t⚠
  wastebasket\t🗑
  watch\t⌚
  water_buffalo\t🐃
  water_closet\t🚾
  water_wave\t🌊
  watermelon\t🍉
  waving_hand\t👋
  waving_hand_dark_skin_tone\t👋🏿
  waving_hand_light_skin_tone\t👋🏻
  waving_hand_medium-dark_skin_tone\t👋🏾
  waving_hand_medium-light_skin_tone\t👋🏼
  waving_hand_medium_skin_tone\t👋🏽
  wavy_dash\t〰
  waxing_crescent_moon\t🌒
  waxing_gibbous_moon\t🌔
  weary_cat_face\t🙀
  weary_face\t😩
  wedding\t💒
  whale\t🐳
  wheel_of_dharma\t☸
  wheelchair_symbol\t♿
  white_circle\t⚪
  white_exclamation_mark\t❕
  white_flag\t🏳
  white_flower\t💮
  white_hair\t🦳
  white-haired_man\t👨\u200D🦳
  white-haired_woman\t👩\u200D🦳
  white_heart\t🤍
  white_heavy_check_mark\t✅
  white_large_square\t⬜
  white_medium-small_square\t◽
  white_medium_square\t◻
  white_medium_star\t⭐
  white_question_mark\t❔
  white_small_square\t▫
  white_square_button\t🔳
  wilted_flower\t🥀
  wind_chime\t🎐
  wind_face\t🌬
  wine_glass\t🍷
  winking_face\t😉
  winking_face_with_tongue\t😜
  wolf_face\t🐺
  woman\t👩
  woman_artist\t👩\u200D🎨
  woman_artist_dark_skin_tone\t👩🏿\u200D🎨
  woman_artist_light_skin_tone\t👩🏻\u200D🎨
  woman_artist_medium-dark_skin_tone\t👩🏾\u200D🎨
  woman_artist_medium-light_skin_tone\t👩🏼\u200D🎨
  woman_artist_medium_skin_tone\t👩🏽\u200D🎨
  woman_astronaut\t👩\u200D🚀
  woman_astronaut_dark_skin_tone\t👩🏿\u200D🚀
  woman_astronaut_light_skin_tone\t👩🏻\u200D🚀
  woman_astronaut_medium-dark_skin_tone\t👩🏾\u200D🚀
  woman_astronaut_medium-light_skin_tone\t👩🏼\u200D🚀
  woman_astronaut_medium_skin_tone\t👩🏽\u200D🚀
  woman_biking\t🚴\u200D♀\uFE0F
  woman_biking_dark_skin_tone\t🚴🏿\u200D♀\uFE0F
  woman_biking_light_skin_tone\t🚴🏻\u200D♀\uFE0F
  woman_biking_medium-dark_skin_tone\t🚴🏾\u200D♀\uFE0F
  woman_biking_medium-light_skin_tone\t🚴🏼\u200D♀\uFE0F
  woman_biking_medium_skin_tone\t🚴🏽\u200D♀\uFE0F
  woman_bouncing_ball\t⛹\uFE0F\u200D♀\uFE0F
  woman_bouncing_ball_dark_skin_tone\t⛹🏿\u200D♀\uFE0F
  woman_bouncing_ball_light_skin_tone\t⛹🏻\u200D♀\uFE0F
  woman_bouncing_ball_medium-dark_skin_tone\t⛹🏾\u200D♀\uFE0F
  woman_bouncing_ball_medium-light_skin_tone\t⛹🏼\u200D♀\uFE0F
  woman_bouncing_ball_medium_skin_tone\t⛹🏽\u200D♀\uFE0F
  woman_bowing\t🙇\u200D♀\uFE0F
  woman_bowing_dark_skin_tone\t🙇🏿\u200D♀\uFE0F
  woman_bowing_light_skin_tone\t🙇🏻\u200D♀\uFE0F
  woman_bowing_medium-dark_skin_tone\t🙇🏾\u200D♀\uFE0F
  woman_bowing_medium-light_skin_tone\t🙇🏼\u200D♀\uFE0F
  woman_bowing_medium_skin_tone\t🙇🏽\u200D♀\uFE0F
  woman_cartwheeling\t🤸\u200D♀\uFE0F
  woman_cartwheeling_dark_skin_tone\t🤸🏿\u200D♀\uFE0F
  woman_cartwheeling_light_skin_tone\t🤸🏻\u200D♀\uFE0F
  woman_cartwheeling_medium-dark_skin_tone\t🤸🏾\u200D♀\uFE0F
  woman_cartwheeling_medium-light_skin_tone\t🤸🏼\u200D♀\uFE0F
  woman_cartwheeling_medium_skin_tone\t🤸🏽\u200D♀\uFE0F
  woman_climbing\t🧗\u200D♀\uFE0F
  woman_climbing_dark_skin_tone\t🧗🏿\u200D♀\uFE0F
  woman_climbing_light_skin_tone\t🧗🏻\u200D♀\uFE0F
  woman_climbing_medium-dark_skin_tone\t🧗🏾\u200D♀\uFE0F
  woman_climbing_medium-light_skin_tone\t🧗🏼\u200D♀\uFE0F
  woman_climbing_medium_skin_tone\t🧗🏽\u200D♀\uFE0F
  woman_construction_worker\t👷\u200D♀\uFE0F
  woman_construction_worker_dark_skin_tone\t👷🏿\u200D♀\uFE0F
  woman_construction_worker_light_skin_tone\t👷🏻\u200D♀\uFE0F
  woman_construction_worker_medium-dark_skin_tone\t👷🏾\u200D♀\uFE0F
  woman_construction_worker_medium-light_skin_tone\t👷🏼\u200D♀\uFE0F
  woman_construction_worker_medium_skin_tone\t👷🏽\u200D♀\uFE0F
  woman_cook\t👩\u200D🍳
  woman_cook_dark_skin_tone\t👩🏿\u200D🍳
  woman_cook_light_skin_tone\t👩🏻\u200D🍳
  woman_cook_medium-dark_skin_tone\t👩🏾\u200D🍳
  woman_cook_medium-light_skin_tone\t👩🏼\u200D🍳
  woman_cook_medium_skin_tone\t👩🏽\u200D🍳
  woman_dancing\t💃
  woman_dancing_dark_skin_tone\t💃🏿
  woman_dancing_light_skin_tone\t💃🏻
  woman_dancing_medium-dark_skin_tone\t💃🏾
  woman_dancing_medium-light_skin_tone\t💃🏼
  woman_dancing_medium_skin_tone\t💃🏽
  woman_dark_skin_tone\t👩🏿
  woman_detective\t🕵\uFE0F\u200D♀\uFE0F
  woman_detective_dark_skin_tone\t🕵🏿\u200D♀\uFE0F
  woman_detective_light_skin_tone\t🕵🏻\u200D♀\uFE0F
  woman_detective_medium-dark_skin_tone\t🕵🏾\u200D♀\uFE0F
  woman_detective_medium-light_skin_tone\t🕵🏼\u200D♀\uFE0F
  woman_detective_medium_skin_tone\t🕵🏽\u200D♀\uFE0F
  woman_elf\t🧝\u200D♀\uFE0F
  woman_elf_dark_skin_tone\t🧝🏿\u200D♀\uFE0F
  woman_elf_light_skin_tone\t🧝🏻\u200D♀\uFE0F
  woman_elf_medium-dark_skin_tone\t🧝🏾\u200D♀\uFE0F
  woman_elf_medium-light_skin_tone\t🧝🏼\u200D♀\uFE0F
  woman_elf_medium_skin_tone\t🧝🏽\u200D♀\uFE0F
  woman_facepalming\t🤦\u200D♀\uFE0F
  woman_facepalming_dark_skin_tone\t🤦🏿\u200D♀\uFE0F
  woman_facepalming_light_skin_tone\t🤦🏻\u200D♀\uFE0F
  woman_facepalming_medium-dark_skin_tone\t🤦🏾\u200D♀\uFE0F
  woman_facepalming_medium-light_skin_tone\t🤦🏼\u200D♀\uFE0F
  woman_facepalming_medium_skin_tone\t🤦🏽\u200D♀\uFE0F
  woman_factory_worker\t👩\u200D🏭
  woman_factory_worker_dark_skin_tone\t👩🏿\u200D🏭
  woman_factory_worker_light_skin_tone\t👩🏻\u200D🏭
  woman_factory_worker_medium-dark_skin_tone\t👩🏾\u200D🏭
  woman_factory_worker_medium-light_skin_tone\t👩🏼\u200D🏭
  woman_factory_worker_medium_skin_tone\t👩🏽\u200D🏭
  woman_fairy\t🧚\u200D♀\uFE0F
  woman_fairy_dark_skin_tone\t🧚🏿\u200D♀\uFE0F
  woman_fairy_light_skin_tone\t🧚🏻\u200D♀\uFE0F
  woman_fairy_medium-dark_skin_tone\t🧚🏾\u200D♀\uFE0F
  woman_fairy_medium-light_skin_tone\t🧚🏼\u200D♀\uFE0F
  woman_fairy_medium_skin_tone\t🧚🏽\u200D♀\uFE0F
  woman_farmer\t👩\u200D🌾
  woman_farmer_dark_skin_tone\t👩🏿\u200D🌾
  woman_farmer_light_skin_tone\t👩🏻\u200D🌾
  woman_farmer_medium-dark_skin_tone\t👩🏾\u200D🌾
  woman_farmer_medium-light_skin_tone\t👩🏼\u200D🌾
  woman_farmer_medium_skin_tone\t👩🏽\u200D🌾
  woman_firefighter\t👩\u200D🚒
  woman_firefighter_dark_skin_tone\t👩🏿\u200D🚒
  woman_firefighter_light_skin_tone\t👩🏻\u200D🚒
  woman_firefighter_medium-dark_skin_tone\t👩🏾\u200D🚒
  woman_firefighter_medium-light_skin_tone\t👩🏼\u200D🚒
  woman_firefighter_medium_skin_tone\t👩🏽\u200D🚒
  woman_frowning\t🙍\u200D♀\uFE0F
  woman_frowning_dark_skin_tone\t🙍🏿\u200D♀\uFE0F
  woman_frowning_light_skin_tone\t🙍🏻\u200D♀\uFE0F
  woman_frowning_medium-dark_skin_tone\t🙍🏾\u200D♀\uFE0F
  woman_frowning_medium-light_skin_tone\t🙍🏼\u200D♀\uFE0F
  woman_frowning_medium_skin_tone\t🙍🏽\u200D♀\uFE0F
  woman_genie\t🧞\u200D♀\uFE0F
  woman_gesturing_no\t🙅\u200D♀\uFE0F
  woman_gesturing_no_dark_skin_tone\t🙅🏿\u200D♀\uFE0F
  woman_gesturing_no_light_skin_tone\t🙅🏻\u200D♀\uFE0F
  woman_gesturing_no_medium-dark_skin_tone\t🙅🏾\u200D♀\uFE0F
  woman_gesturing_no_medium-light_skin_tone\t🙅🏼\u200D♀\uFE0F
  woman_gesturing_no_medium_skin_tone\t🙅🏽\u200D♀\uFE0F
  woman_gesturing_ok\t🙆\u200D♀\uFE0F
  woman_gesturing_ok_dark_skin_tone\t🙆🏿\u200D♀\uFE0F
  woman_gesturing_ok_light_skin_tone\t🙆🏻\u200D♀\uFE0F
  woman_gesturing_ok_medium-dark_skin_tone\t🙆🏾\u200D♀\uFE0F
  woman_gesturing_ok_medium-light_skin_tone\t🙆🏼\u200D♀\uFE0F
  woman_gesturing_ok_medium_skin_tone\t🙆🏽\u200D♀\uFE0F
  woman_getting_haircut\t💇\u200D♀\uFE0F
  woman_getting_haircut_dark_skin_tone\t💇🏿\u200D♀\uFE0F
  woman_getting_haircut_light_skin_tone\t💇🏻\u200D♀\uFE0F
  woman_getting_haircut_medium-dark_skin_tone\t💇🏾\u200D♀\uFE0F
  woman_getting_haircut_medium-light_skin_tone\t💇🏼\u200D♀\uFE0F
  woman_getting_haircut_medium_skin_tone\t💇🏽\u200D♀\uFE0F
  woman_getting_massage\t💆\u200D♀\uFE0F
  woman_getting_massage_dark_skin_tone\t💆🏿\u200D♀\uFE0F
  woman_getting_massage_light_skin_tone\t💆🏻\u200D♀\uFE0F
  woman_getting_massage_medium-dark_skin_tone\t💆🏾\u200D♀\uFE0F
  woman_getting_massage_medium-light_skin_tone\t💆🏼\u200D♀\uFE0F
  woman_getting_massage_medium_skin_tone\t💆🏽\u200D♀\uFE0F
  woman_golfing\t🏌\uFE0F\u200D♀\uFE0F
  woman_golfing_dark_skin_tone\t🏌🏿\u200D♀\uFE0F
  woman_golfing_light_skin_tone\t🏌🏻\u200D♀\uFE0F
  woman_golfing_medium-dark_skin_tone\t🏌🏾\u200D♀\uFE0F
  woman_golfing_medium-light_skin_tone\t🏌🏼\u200D♀\uFE0F
  woman_golfing_medium_skin_tone\t🏌🏽\u200D♀\uFE0F
  woman_guard\t💂\u200D♀\uFE0F
  woman_guard_dark_skin_tone\t💂🏿\u200D♀\uFE0F
  woman_guard_light_skin_tone\t💂🏻\u200D♀\uFE0F
  woman_guard_medium-dark_skin_tone\t💂🏾\u200D♀\uFE0F
  woman_guard_medium-light_skin_tone\t💂🏼\u200D♀\uFE0F
  woman_guard_medium_skin_tone\t💂🏽\u200D♀\uFE0F
  woman_health_worker\t👩\u200D⚕\uFE0F
  woman_health_worker_dark_skin_tone\t👩🏿\u200D⚕\uFE0F
  woman_health_worker_light_skin_tone\t👩🏻\u200D⚕\uFE0F
  woman_health_worker_medium-dark_skin_tone\t👩🏾\u200D⚕\uFE0F
  woman_health_worker_medium-light_skin_tone\t👩🏼\u200D⚕\uFE0F
  woman_health_worker_medium_skin_tone\t👩🏽\u200D⚕\uFE0F
  woman_in_lotus_position\t🧘\u200D♀\uFE0F
  woman_in_lotus_position_dark_skin_tone\t🧘🏿\u200D♀\uFE0F
  woman_in_lotus_position_light_skin_tone\t🧘🏻\u200D♀\uFE0F
  woman_in_lotus_position_medium-dark_skin_tone\t🧘🏾\u200D♀\uFE0F
  woman_in_lotus_position_medium-light_skin_tone\t🧘🏼\u200D♀\uFE0F
  woman_in_lotus_position_medium_skin_tone\t🧘🏽\u200D♀\uFE0F
  woman_in_manual_wheelchair\t👩\u200D🦽
  woman_in_motorized_wheelchair\t👩\u200D🦼
  woman_in_steamy_room\t🧖\u200D♀\uFE0F
  woman_in_steamy_room_dark_skin_tone\t🧖🏿\u200D♀\uFE0F
  woman_in_steamy_room_light_skin_tone\t🧖🏻\u200D♀\uFE0F
  woman_in_steamy_room_medium-dark_skin_tone\t🧖🏾\u200D♀\uFE0F
  woman_in_steamy_room_medium-light_skin_tone\t🧖🏼\u200D♀\uFE0F
  woman_in_steamy_room_medium_skin_tone\t🧖🏽\u200D♀\uFE0F
  woman_judge\t👩\u200D⚖\uFE0F
  woman_judge_dark_skin_tone\t👩🏿\u200D⚖\uFE0F
  woman_judge_light_skin_tone\t👩🏻\u200D⚖\uFE0F
  woman_judge_medium-dark_skin_tone\t👩🏾\u200D⚖\uFE0F
  woman_judge_medium-light_skin_tone\t👩🏼\u200D⚖\uFE0F
  woman_judge_medium_skin_tone\t👩🏽\u200D⚖\uFE0F
  woman_juggling\t🤹\u200D♀\uFE0F
  woman_juggling_dark_skin_tone\t🤹🏿\u200D♀\uFE0F
  woman_juggling_light_skin_tone\t🤹🏻\u200D♀\uFE0F
  woman_juggling_medium-dark_skin_tone\t🤹🏾\u200D♀\uFE0F
  woman_juggling_medium-light_skin_tone\t🤹🏼\u200D♀\uFE0F
  woman_juggling_medium_skin_tone\t🤹🏽\u200D♀\uFE0F
  woman_lifting_weights\t🏋\uFE0F\u200D♀\uFE0F
  woman_lifting_weights_dark_skin_tone\t🏋🏿\u200D♀\uFE0F
  woman_lifting_weights_light_skin_tone\t🏋🏻\u200D♀\uFE0F
  woman_lifting_weights_medium-dark_skin_tone\t🏋🏾\u200D♀\uFE0F
  woman_lifting_weights_medium-light_skin_tone\t🏋🏼\u200D♀\uFE0F
  woman_lifting_weights_medium_skin_tone\t🏋🏽\u200D♀\uFE0F
  woman_light_skin_tone\t👩🏻
  woman_mage\t🧙\u200D♀\uFE0F
  woman_mage_dark_skin_tone\t🧙🏿\u200D♀\uFE0F
  woman_mage_light_skin_tone\t🧙🏻\u200D♀\uFE0F
  woman_mage_medium-dark_skin_tone\t🧙🏾\u200D♀\uFE0F
  woman_mage_medium-light_skin_tone\t🧙🏼\u200D♀\uFE0F
  woman_mage_medium_skin_tone\t🧙🏽\u200D♀\uFE0F
  woman_mechanic\t👩\u200D🔧
  woman_mechanic_dark_skin_tone\t👩🏿\u200D🔧
  woman_mechanic_light_skin_tone\t👩🏻\u200D🔧
  woman_mechanic_medium-dark_skin_tone\t👩🏾\u200D🔧
  woman_mechanic_medium-light_skin_tone\t👩🏼\u200D🔧
  woman_mechanic_medium_skin_tone\t👩🏽\u200D🔧
  woman_medium-dark_skin_tone\t👩🏾
  woman_medium-light_skin_tone\t👩🏼
  woman_medium_skin_tone\t👩🏽
  woman_mountain_biking\t🚵\u200D♀\uFE0F
  woman_mountain_biking_dark_skin_tone\t🚵🏿\u200D♀\uFE0F
  woman_mountain_biking_light_skin_tone\t🚵🏻\u200D♀\uFE0F
  woman_mountain_biking_medium-dark_skin_tone\t🚵🏾\u200D♀\uFE0F
  woman_mountain_biking_medium-light_skin_tone\t🚵🏼\u200D♀\uFE0F
  woman_mountain_biking_medium_skin_tone\t🚵🏽\u200D♀\uFE0F
  woman_office_worker\t👩\u200D💼
  woman_office_worker_dark_skin_tone\t👩🏿\u200D💼
  woman_office_worker_light_skin_tone\t👩🏻\u200D💼
  woman_office_worker_medium-dark_skin_tone\t👩🏾\u200D💼
  woman_office_worker_medium-light_skin_tone\t👩🏼\u200D💼
  woman_office_worker_medium_skin_tone\t👩🏽\u200D💼
  woman_pilot\t👩\u200D✈\uFE0F
  woman_pilot_dark_skin_tone\t👩🏿\u200D✈\uFE0F
  woman_pilot_light_skin_tone\t👩🏻\u200D✈\uFE0F
  woman_pilot_medium-dark_skin_tone\t👩🏾\u200D✈\uFE0F
  woman_pilot_medium-light_skin_tone\t👩🏼\u200D✈\uFE0F
  woman_pilot_medium_skin_tone\t👩🏽\u200D✈\uFE0F
  woman_playing_handball\t🤾\u200D♀\uFE0F
  woman_playing_handball_dark_skin_tone\t🤾🏿\u200D♀\uFE0F
  woman_playing_handball_light_skin_tone\t🤾🏻\u200D♀\uFE0F
  woman_playing_handball_medium-dark_skin_tone\t🤾🏾\u200D♀\uFE0F
  woman_playing_handball_medium-light_skin_tone\t🤾🏼\u200D♀\uFE0F
  woman_playing_handball_medium_skin_tone\t🤾🏽\u200D♀\uFE0F
  woman_playing_water_polo\t🤽\u200D♀\uFE0F
  woman_playing_water_polo_dark_skin_tone\t🤽🏿\u200D♀\uFE0F
  woman_playing_water_polo_light_skin_tone\t🤽🏻\u200D♀\uFE0F
  woman_playing_water_polo_medium-dark_skin_tone\t🤽🏾\u200D♀\uFE0F
  woman_playing_water_polo_medium-light_skin_tone\t🤽🏼\u200D♀\uFE0F
  woman_playing_water_polo_medium_skin_tone\t🤽🏽\u200D♀\uFE0F
  woman_police_officer\t👮\u200D♀\uFE0F
  woman_police_officer_dark_skin_tone\t👮🏿\u200D♀\uFE0F
  woman_police_officer_light_skin_tone\t👮🏻\u200D♀\uFE0F
  woman_police_officer_medium-dark_skin_tone\t👮🏾\u200D♀\uFE0F
  woman_police_officer_medium-light_skin_tone\t👮🏼\u200D♀\uFE0F
  woman_police_officer_medium_skin_tone\t👮🏽\u200D♀\uFE0F
  woman_pouting\t🙎\u200D♀\uFE0F
  woman_pouting_dark_skin_tone\t🙎🏿\u200D♀\uFE0F
  woman_pouting_light_skin_tone\t🙎🏻\u200D♀\uFE0F
  woman_pouting_medium-dark_skin_tone\t🙎🏾\u200D♀\uFE0F
  woman_pouting_medium-light_skin_tone\t🙎🏼\u200D♀\uFE0F
  woman_pouting_medium_skin_tone\t🙎🏽\u200D♀\uFE0F
  woman_raising_hand\t🙋\u200D♀\uFE0F
  woman_raising_hand_dark_skin_tone\t🙋🏿\u200D♀\uFE0F
  woman_raising_hand_light_skin_tone\t🙋🏻\u200D♀\uFE0F
  woman_raising_hand_medium-dark_skin_tone\t🙋🏾\u200D♀\uFE0F
  woman_raising_hand_medium-light_skin_tone\t🙋🏼\u200D♀\uFE0F
  woman_raising_hand_medium_skin_tone\t🙋🏽\u200D♀\uFE0F
  woman_rowing_boat\t🚣\u200D♀\uFE0F
  woman_rowing_boat_dark_skin_tone\t🚣🏿\u200D♀\uFE0F
  woman_rowing_boat_light_skin_tone\t🚣🏻\u200D♀\uFE0F
  woman_rowing_boat_medium-dark_skin_tone\t🚣🏾\u200D♀\uFE0F
  woman_rowing_boat_medium-light_skin_tone\t🚣🏼\u200D♀\uFE0F
  woman_rowing_boat_medium_skin_tone\t🚣🏽\u200D♀\uFE0F
  woman_running\t🏃\u200D♀\uFE0F
  woman_running_dark_skin_tone\t🏃🏿\u200D♀\uFE0F
  woman_running_light_skin_tone\t🏃🏻\u200D♀\uFE0F
  woman_running_medium-dark_skin_tone\t🏃🏾\u200D♀\uFE0F
  woman_running_medium-light_skin_tone\t🏃🏼\u200D♀\uFE0F
  woman_running_medium_skin_tone\t🏃🏽\u200D♀\uFE0F
  woman_scientist\t👩\u200D🔬
  woman_scientist_dark_skin_tone\t👩🏿\u200D🔬
  woman_scientist_light_skin_tone\t👩🏻\u200D🔬
  woman_scientist_medium-dark_skin_tone\t👩🏾\u200D🔬
  woman_scientist_medium-light_skin_tone\t👩🏼\u200D🔬
  woman_scientist_medium_skin_tone\t👩🏽\u200D🔬
  woman_shrugging\t🤷\u200D♀\uFE0F
  woman_shrugging_dark_skin_tone\t🤷🏿\u200D♀\uFE0F
  woman_shrugging_light_skin_tone\t🤷🏻\u200D♀\uFE0F
  woman_shrugging_medium-dark_skin_tone\t🤷🏾\u200D♀\uFE0F
  woman_shrugging_medium-light_skin_tone\t🤷🏼\u200D♀\uFE0F
  woman_shrugging_medium_skin_tone\t🤷🏽\u200D♀\uFE0F
  woman_singer\t👩\u200D🎤
  woman_singer_dark_skin_tone\t👩🏿\u200D🎤
  woman_singer_light_skin_tone\t👩🏻\u200D🎤
  woman_singer_medium-dark_skin_tone\t👩🏾\u200D🎤
  woman_singer_medium-light_skin_tone\t👩🏼\u200D🎤
  woman_singer_medium_skin_tone\t👩🏽\u200D🎤
  woman_student\t👩\u200D🎓
  woman_student_dark_skin_tone\t👩🏿\u200D🎓
  woman_student_light_skin_tone\t👩🏻\u200D🎓
  woman_student_medium-dark_skin_tone\t👩🏾\u200D🎓
  woman_student_medium-light_skin_tone\t👩🏼\u200D🎓
  woman_student_medium_skin_tone\t👩🏽\u200D🎓
  woman_surfing\t🏄\u200D♀\uFE0F
  woman_surfing_dark_skin_tone\t🏄🏿\u200D♀\uFE0F
  woman_surfing_light_skin_tone\t🏄🏻\u200D♀\uFE0F
  woman_surfing_medium-dark_skin_tone\t🏄🏾\u200D♀\uFE0F
  woman_surfing_medium-light_skin_tone\t🏄🏼\u200D♀\uFE0F
  woman_surfing_medium_skin_tone\t🏄🏽\u200D♀\uFE0F
  woman_swimming\t🏊\u200D♀\uFE0F
  woman_swimming_dark_skin_tone\t🏊🏿\u200D♀\uFE0F
  woman_swimming_light_skin_tone\t🏊🏻\u200D♀\uFE0F
  woman_swimming_medium-dark_skin_tone\t🏊🏾\u200D♀\uFE0F
  woman_swimming_medium-light_skin_tone\t🏊🏼\u200D♀\uFE0F
  woman_swimming_medium_skin_tone\t🏊🏽\u200D♀\uFE0F
  woman_teacher\t👩\u200D🏫
  woman_teacher_dark_skin_tone\t👩🏿\u200D🏫
  woman_teacher_light_skin_tone\t👩🏻\u200D🏫
  woman_teacher_medium-dark_skin_tone\t👩🏾\u200D🏫
  woman_teacher_medium-light_skin_tone\t👩🏼\u200D🏫
  woman_teacher_medium_skin_tone\t👩🏽\u200D🏫
  woman_technologist\t👩\u200D💻
  woman_technologist_dark_skin_tone\t👩🏿\u200D💻
  woman_technologist_light_skin_tone\t👩🏻\u200D💻
  woman_technologist_medium-dark_skin_tone\t👩🏾\u200D💻
  woman_technologist_medium-light_skin_tone\t👩🏼\u200D💻
  woman_technologist_medium_skin_tone\t👩🏽\u200D💻
  woman_tipping_hand\t💁\u200D♀\uFE0F
  woman_tipping_hand_dark_skin_tone\t💁🏿\u200D♀\uFE0F
  woman_tipping_hand_light_skin_tone\t💁🏻\u200D♀\uFE0F
  woman_tipping_hand_medium-dark_skin_tone\t💁🏾\u200D♀\uFE0F
  woman_tipping_hand_medium-light_skin_tone\t💁🏼\u200D♀\uFE0F
  woman_tipping_hand_medium_skin_tone\t💁🏽\u200D♀\uFE0F
  woman_vampire\t🧛\u200D♀\uFE0F
  woman_vampire_dark_skin_tone\t🧛🏿\u200D♀\uFE0F
  woman_vampire_light_skin_tone\t🧛🏻\u200D♀\uFE0F
  woman_vampire_medium-dark_skin_tone\t🧛🏾\u200D♀\uFE0F
  woman_vampire_medium-light_skin_tone\t🧛🏼\u200D♀\uFE0F
  woman_vampire_medium_skin_tone\t🧛🏽\u200D♀\uFE0F
  woman_walking\t🚶\u200D♀\uFE0F
  woman_walking_dark_skin_tone\t🚶🏿\u200D♀\uFE0F
  woman_walking_light_skin_tone\t🚶🏻\u200D♀\uFE0F
  woman_walking_medium-dark_skin_tone\t🚶🏾\u200D♀\uFE0F
  woman_walking_medium-light_skin_tone\t🚶🏼\u200D♀\uFE0F
  woman_walking_medium_skin_tone\t🚶🏽\u200D♀\uFE0F
  woman_wearing_turban\t👳\u200D♀\uFE0F
  woman_wearing_turban_dark_skin_tone\t👳🏿\u200D♀\uFE0F
  woman_wearing_turban_light_skin_tone\t👳🏻\u200D♀\uFE0F
  woman_wearing_turban_medium-dark_skin_tone\t👳🏾\u200D♀\uFE0F
  woman_wearing_turban_medium-light_skin_tone\t👳🏼\u200D♀\uFE0F
  woman_wearing_turban_medium_skin_tone\t👳🏽\u200D♀\uFE0F
  woman_with_headscarf\t🧕
  woman_with_headscarf_dark_skin_tone\t🧕🏿
  woman_with_headscarf_light_skin_tone\t🧕🏻
  woman_with_headscarf_medium-dark_skin_tone\t🧕🏾
  woman_with_headscarf_medium-light_skin_tone\t🧕🏼
  woman_with_headscarf_medium_skin_tone\t🧕🏽
  woman_with_probing_cane\t👩\u200D🦯
  woman_zombie\t🧟\u200D♀\uFE0F
  woman’s_boot\t👢
  woman’s_clothes\t👚
  woman’s_hat\t👒
  woman’s_sandal\t👡
  women_with_bunny_ears\t👯\u200D♀\uFE0F
  women_wrestling\t🤼\u200D♀\uFE0F
  women’s_room\t🚺
  woozy_face\t🥴
  world_map\t🗺
  worried_face\t😟
  wrapped_gift\t🎁
  wrench\t🔧
  writing_hand\t✍
  writing_hand_dark_skin_tone\t✍🏿
  writing_hand_light_skin_tone\t✍🏻
  writing_hand_medium-dark_skin_tone\t✍🏾
  writing_hand_medium-light_skin_tone\t✍🏼
  writing_hand_medium_skin_tone\t✍🏽
  yarn\t🧶
  yawning_face\t🥱
  yellow_circle\t🟡
  yellow_heart\t💛
  yellow_square\t🟨
  yen_banknote\t💴
  yo-yo\t🪀
  yin_yang\t☯
  zany_face\t🤪
  zebra\t🦓
  zipper-mouth_face\t🤐
  zombie\t🧟
  zzz\t💤
  åland_islands\t🇦🇽
  keycap_asterisk\t*\u20E3
  keycap_digit_eight\t8\u20E3
  keycap_digit_five\t5\u20E3
  keycap_digit_four\t4\u20E3
  keycap_digit_nine\t9\u20E3
  keycap_digit_one\t1\u20E3
  keycap_digit_seven\t7\u20E3
  keycap_digit_six\t6\u20E3
  keycap_digit_three\t3\u20E3
  keycap_digit_two\t2\u20E3
  keycap_digit_zero\t0\u20E3
  keycap_number_sign\t#\u20E3
  light_skin_tone\t🏻
  medium_light_skin_tone\t🏼
  medium_skin_tone\t🏽
  medium_dark_skin_tone\t🏾
  dark_skin_tone\t🏿
  regional_indicator_symbol_letter_a\t🇦
  regional_indicator_symbol_letter_b\t🇧
  regional_indicator_symbol_letter_c\t🇨
  regional_indicator_symbol_letter_d\t🇩
  regional_indicator_symbol_letter_e\t🇪
  regional_indicator_symbol_letter_f\t🇫
  regional_indicator_symbol_letter_g\t🇬
  regional_indicator_symbol_letter_h\t🇭
  regional_indicator_symbol_letter_i\t🇮
  regional_indicator_symbol_letter_j\t🇯
  regional_indicator_symbol_letter_k\t🇰
  regional_indicator_symbol_letter_l\t🇱
  regional_indicator_symbol_letter_m\t🇲
  regional_indicator_symbol_letter_n\t🇳
  regional_indicator_symbol_letter_o\t🇴
  regional_indicator_symbol_letter_p\t🇵
  regional_indicator_symbol_letter_q\t🇶
  regional_indicator_symbol_letter_r\t🇷
  regional_indicator_symbol_letter_s\t🇸
  regional_indicator_symbol_letter_t\t🇹
  regional_indicator_symbol_letter_u\t🇺
  regional_indicator_symbol_letter_v\t🇻
  regional_indicator_symbol_letter_w\t🇼
  regional_indicator_symbol_letter_x\t🇽
  regional_indicator_symbol_letter_y\t🇾
  regional_indicator_symbol_letter_z\t🇿
  airplane_arriving\t🛬
  space_invader\t👾
  football\t🏈
  anger\t💢
  angry\t😠
  anguished\t😧
  signal_strength\t📶
  arrows_counterclockwise\t🔄
  arrow_heading_down\t⤵
  arrow_heading_up\t⤴
  art\t🎨
  astonished\t😲
  athletic_shoe\t👟
  atm\t🏧
  car\t🚗
  red_car\t🚗
  angel\t👼
  back\t🔙
  badminton_racquet_and_shuttlecock\t🏸
  dollar\t💵
  euro\t💶
  pound\t💷
  yen\t💴
  barber\t💈
  bath\t🛀
  bear\t🐻
  heartbeat\t💓
  beer\t🍺
  no_bell\t🔕
  bento\t🍱
  bike\t🚲
  bicyclist\t🚴
  8ball\t🎱
  biohazard_sign\t☣
  birthday\t🎂
  black_circle_for_record\t⏺
  clubs\t♣
  diamonds\t♦
  arrow_double_down\t⏬
  hearts\t♥
  rewind\t⏪
  black_left__pointing_double_triangle_with_vertical_bar\t⏮
  arrow_backward\t◀
  black_medium_small_square\t◾
  question\t❓
  fast_forward\t⏩
  black_right__pointing_double_triangle_with_vertical_bar\t⏭
  arrow_forward\t▶
  black_right__pointing_triangle_with_double_vertical_bar\t⏯
  arrow_right\t➡
  spades\t♠
  black_square_for_stop\t⏹
  sunny\t☀
  phone\t☎
  recycle\t♻
  arrow_double_up\t⏫
  busstop\t🚏
  date\t📅
  flags\t🎏
  cat2\t🐈
  joy_cat\t😹
  smirk_cat\t😼
  chart_with_downwards_trend\t📉
  chart_with_upwards_trend\t📈
  chart\t💹
  mega\t📣
  checkered_flag\t🏁
  accept\t🉑
  ideograph_advantage\t🉐
  congratulations\t㊗
  secret\t㊙
  m\tⓂ
  city_sunset\t🌆
  clapper\t🎬
  clap\t👏
  beers\t🍻
  clock830\t🕣
  clock8\t🕗
  clock1130\t🕦
  clock11\t🕚
  clock530\t🕠
  clock5\t🕔
  clock430\t🕟
  clock4\t🕓
  clock930\t🕤
  clock9\t🕘
  clock130\t🕜
  clock1\t🕐
  clock730\t🕢
  clock7\t🕖
  clock630\t🕡
  clock6\t🕕
  clock1030\t🕥
  clock10\t🕙
  clock330\t🕞
  clock3\t🕒
  clock1230\t🕧
  clock12\t🕛
  clock230\t🕝
  clock2\t🕑
  arrows_clockwise\t🔃
  repeat\t🔁
  repeat_one\t🔂
  closed_lock_with_key\t🔐
  mailbox_closed\t📪
  mailbox\t📫
  cloud_with_tornado\t🌪
  cocktail\t🍸
  boom\t💥
  compression\t🗜
  confounded\t😖
  confused\t😕
  rice\t🍚
  cow2\t🐄
  cricket_bat_and_ball\t🏏
  x\t❌
  cry\t😢
  curry\t🍛
  dagger_knife\t🗡
  dancer\t💃
  dark_sunglasses\t🕶
  dash\t💨
  truck\t🚚
  derelict_house_building\t🏚
  diamond_shape_with_a_dot_inside\t💠
  dart\t🎯
  disappointed_relieved\t😥
  disappointed\t😞
  do_not_litter\t🚯
  dog2\t🐕
  flipper\t🐬
  loop\t➿
  bangbang\t‼
  double_vertical_bar\t⏸
  dove_of_peace\t🕊
  small_red_triangle_down\t🔻
  arrow_down_small\t🔽
  arrow_down\t⬇
  dromedary_camel\t🐪
  e__mail\t📧
  corn\t🌽
  ear_of_rice\t🌾
  earth_americas\t🌎
  earth_asia\t🌏
  earth_africa\t🌍
  eight_pointed_black_star\t✴
  eight_spoked_asterisk\t✳
  eject_symbol\t⏏
  bulb\t💡
  emoji_modifier_fitzpatrick_type__1__2\t🏻
  emoji_modifier_fitzpatrick_type__3\t🏼
  emoji_modifier_fitzpatrick_type__4\t🏽
  emoji_modifier_fitzpatrick_type__5\t🏾
  emoji_modifier_fitzpatrick_type__6\t🏿
  end\t🔚
  email\t✉
  european_castle\t🏰
  european_post_office\t🏤
  interrobang\t⁉
  expressionless\t😑
  eyeglasses\t👓
  massage\t💆
  yum\t😋
  scream\t😱
  kissing_heart\t😘
  sweat\t😓
  face_with_head__bandage\t🤕
  triumph\t😤
  mask\t😷
  no_good\t🙅
  ok_woman\t🙆
  open_mouth\t😮
  cold_sweat\t😰
  stuck_out_tongue\t😛
  stuck_out_tongue_closed_eyes\t😝
  stuck_out_tongue_winking_eye\t😜
  joy\t😂
  no_mouth\t😶
  santa\t🎅
  fax\t📠
  fearful\t😨
  field_hockey_stick_and_ball\t🏑
  first_quarter_moon_with_face\t🌛
  fish_cake\t🍥
  fishing_pole_and_fish\t🎣
  facepunch\t👊
  punch\t👊
  flag_for_afghanistan\t🇦🇫
  flag_for_albania\t🇦🇱
  flag_for_algeria\t🇩🇿
  flag_for_american_samoa\t🇦🇸
  flag_for_andorra\t🇦🇩
  flag_for_angola\t🇦🇴
  flag_for_anguilla\t🇦🇮
  flag_for_antarctica\t🇦🇶
  flag_for_antigua_&_barbuda\t🇦🇬
  flag_for_argentina\t🇦🇷
  flag_for_armenia\t🇦🇲
  flag_for_aruba\t🇦🇼
  flag_for_ascension_island\t🇦🇨
  flag_for_australia\t🇦🇺
  flag_for_austria\t🇦🇹
  flag_for_azerbaijan\t🇦🇿
  flag_for_bahamas\t🇧🇸
  flag_for_bahrain\t🇧🇭
  flag_for_bangladesh\t🇧🇩
  flag_for_barbados\t🇧🇧
  flag_for_belarus\t🇧🇾
  flag_for_belgium\t🇧🇪
  flag_for_belize\t🇧🇿
  flag_for_benin\t🇧🇯
  flag_for_bermuda\t🇧🇲
  flag_for_bhutan\t🇧🇹
  flag_for_bolivia\t🇧🇴
  flag_for_bosnia_&_herzegovina\t🇧🇦
  flag_for_botswana\t🇧🇼
  flag_for_bouvet_island\t🇧🇻
  flag_for_brazil\t🇧🇷
  flag_for_british_indian_ocean_territory\t🇮🇴
  flag_for_british_virgin_islands\t🇻🇬
  flag_for_brunei\t🇧🇳
  flag_for_bulgaria\t🇧🇬
  flag_for_burkina_faso\t🇧🇫
  flag_for_burundi\t🇧🇮
  flag_for_cambodia\t🇰🇭
  flag_for_cameroon\t🇨🇲
  flag_for_canada\t🇨🇦
  flag_for_canary_islands\t🇮🇨
  flag_for_cape_verde\t🇨🇻
  flag_for_caribbean_netherlands\t🇧🇶
  flag_for_cayman_islands\t🇰🇾
  flag_for_central_african_republic\t🇨🇫
  flag_for_ceuta_&_melilla\t🇪🇦
  flag_for_chad\t🇹🇩
  flag_for_chile\t🇨🇱
  flag_for_china\t🇨🇳
  flag_for_christmas_island\t🇨🇽
  flag_for_clipperton_island\t🇨🇵
  flag_for_cocos__islands\t🇨🇨
  flag_for_colombia\t🇨🇴
  flag_for_comoros\t🇰🇲
  flag_for_congo____brazzaville\t🇨🇬
  flag_for_congo____kinshasa\t🇨🇩
  flag_for_cook_islands\t🇨🇰
  flag_for_costa_rica\t🇨🇷
  flag_for_croatia\t🇭🇷
  flag_for_cuba\t🇨🇺
  flag_for_curaçao\t🇨🇼
  flag_for_cyprus\t🇨🇾
  flag_for_czech_republic\t🇨🇿
  flag_for_côte_d’ivoire\t🇨🇮
  flag_for_denmark\t🇩🇰
  flag_for_diego_garcia\t🇩🇬
  flag_for_djibouti\t🇩🇯
  flag_for_dominica\t🇩🇲
  flag_for_dominican_republic\t🇩🇴
  flag_for_ecuador\t🇪🇨
  flag_for_egypt\t🇪🇬
  flag_for_el_salvador\t🇸🇻
  flag_for_equatorial_guinea\t🇬🇶
  flag_for_eritrea\t🇪🇷
  flag_for_estonia\t🇪🇪
  flag_for_ethiopia\t🇪🇹
  flag_for_european_union\t🇪🇺
  flag_for_falkland_islands\t🇫🇰
  flag_for_faroe_islands\t🇫🇴
  flag_for_fiji\t🇫🇯
  flag_for_finland\t🇫🇮
  flag_for_france\t🇫🇷
  flag_for_french_guiana\t🇬🇫
  flag_for_french_polynesia\t🇵🇫
  flag_for_french_southern_territories\t🇹🇫
  flag_for_gabon\t🇬🇦
  flag_for_gambia\t🇬🇲
  flag_for_georgia\t🇬🇪
  flag_for_germany\t🇩🇪
  flag_for_ghana\t🇬🇭
  flag_for_gibraltar\t🇬🇮
  flag_for_greece\t🇬🇷
  flag_for_greenland\t🇬🇱
  flag_for_grenada\t🇬🇩
  flag_for_guadeloupe\t🇬🇵
  flag_for_guam\t🇬🇺
  flag_for_guatemala\t🇬🇹
  flag_for_guernsey\t🇬🇬
  flag_for_guinea\t🇬🇳
  flag_for_guinea__bissau\t🇬🇼
  flag_for_guyana\t🇬🇾
  flag_for_haiti\t🇭🇹
  flag_for_heard_&_mcdonald_islands\t🇭🇲
  flag_for_honduras\t🇭🇳
  flag_for_hong_kong\t🇭🇰
  flag_for_hungary\t🇭🇺
  flag_for_iceland\t🇮🇸
  flag_for_india\t🇮🇳
  flag_for_indonesia\t🇮🇩
  flag_for_iran\t🇮🇷
  flag_for_iraq\t🇮🇶
  flag_for_ireland\t🇮🇪
  flag_for_isle_of_man\t🇮🇲
  flag_for_israel\t🇮🇱
  flag_for_italy\t🇮🇹
  flag_for_jamaica\t🇯🇲
  flag_for_japan\t🇯🇵
  flag_for_jersey\t🇯🇪
  flag_for_jordan\t🇯🇴
  flag_for_kazakhstan\t🇰🇿
  flag_for_kenya\t🇰🇪
  flag_for_kiribati\t🇰🇮
  flag_for_kosovo\t🇽🇰
  flag_for_kuwait\t🇰🇼
  flag_for_kyrgyzstan\t🇰🇬
  flag_for_laos\t🇱🇦
  flag_for_latvia\t🇱🇻
  flag_for_lebanon\t🇱🇧
  flag_for_lesotho\t🇱🇸
  flag_for_liberia\t🇱🇷
  flag_for_libya\t🇱🇾
  flag_for_liechtenstein\t🇱🇮
  flag_for_lithuania\t🇱🇹
  flag_for_luxembourg\t🇱🇺
  flag_for_macau\t🇲🇴
  flag_for_macedonia\t🇲🇰
  flag_for_madagascar\t🇲🇬
  flag_for_malawi\t🇲🇼
  flag_for_malaysia\t🇲🇾
  flag_for_maldives\t🇲🇻
  flag_for_mali\t🇲🇱
  flag_for_malta\t🇲🇹
  flag_for_marshall_islands\t🇲🇭
  flag_for_martinique\t🇲🇶
  flag_for_mauritania\t🇲🇷
  flag_for_mauritius\t🇲🇺
  flag_for_mayotte\t🇾🇹
  flag_for_mexico\t🇲🇽
  flag_for_micronesia\t🇫🇲
  flag_for_moldova\t🇲🇩
  flag_for_monaco\t🇲🇨
  flag_for_mongolia\t🇲🇳
  flag_for_montenegro\t🇲🇪
  flag_for_montserrat\t🇲🇸
  flag_for_morocco\t🇲🇦
  flag_for_mozambique\t🇲🇿
  flag_for_myanmar\t🇲🇲
  flag_for_namibia\t🇳🇦
  flag_for_nauru\t🇳🇷
  flag_for_nepal\t🇳🇵
  flag_for_netherlands\t🇳🇱
  flag_for_new_caledonia\t🇳🇨
  flag_for_new_zealand\t🇳🇿
  flag_for_nicaragua\t🇳🇮
  flag_for_niger\t🇳🇪
  flag_for_nigeria\t🇳🇬
  flag_for_niue\t🇳🇺
  flag_for_norfolk_island\t🇳🇫
  flag_for_north_korea\t🇰🇵
  flag_for_northern_mariana_islands\t🇲🇵
  flag_for_norway\t🇳🇴
  flag_for_oman\t🇴🇲
  flag_for_pakistan\t🇵🇰
  flag_for_palau\t🇵🇼
  flag_for_palestinian_territories\t🇵🇸
  flag_for_panama\t🇵🇦
  flag_for_papua_new_guinea\t🇵🇬
  flag_for_paraguay\t🇵🇾
  flag_for_peru\t🇵🇪
  flag_for_philippines\t🇵🇭
  flag_for_pitcairn_islands\t🇵🇳
  flag_for_poland\t🇵🇱
  flag_for_portugal\t🇵🇹
  flag_for_puerto_rico\t🇵🇷
  flag_for_qatar\t🇶🇦
  flag_for_romania\t🇷🇴
  flag_for_russia\t🇷🇺
  flag_for_rwanda\t🇷🇼
  flag_for_réunion\t🇷🇪
  flag_for_samoa\t🇼🇸
  flag_for_san_marino\t🇸🇲
  flag_for_saudi_arabia\t🇸🇦
  flag_for_senegal\t🇸🇳
  flag_for_serbia\t🇷🇸
  flag_for_seychelles\t🇸🇨
  flag_for_sierra_leone\t🇸🇱
  flag_for_singapore\t🇸🇬
  flag_for_sint_maarten\t🇸🇽
  flag_for_slovakia\t🇸🇰
  flag_for_slovenia\t🇸🇮
  flag_for_solomon_islands\t🇸🇧
  flag_for_somalia\t🇸🇴
  flag_for_south_africa\t🇿🇦
  flag_for_south_georgia_&_south_sandwich_islands\t🇬🇸
  flag_for_south_korea\t🇰🇷
  flag_for_south_sudan\t🇸🇸
  flag_for_spain\t🇪🇸
  flag_for_sri_lanka\t🇱🇰
  flag_for_st._barthélemy\t🇧🇱
  flag_for_st._helena\t🇸🇭
  flag_for_st._kitts_&_nevis\t🇰🇳
  flag_for_st._lucia\t🇱🇨
  flag_for_st._martin\t🇲🇫
  flag_for_st._pierre_&_miquelon\t🇵🇲
  flag_for_st._vincent_&_grenadines\t🇻🇨
  flag_for_sudan\t🇸🇩
  flag_for_suriname\t🇸🇷
  flag_for_svalbard_&_jan_mayen\t🇸🇯
  flag_for_swaziland\t🇸🇿
  flag_for_sweden\t🇸🇪
  flag_for_switzerland\t🇨🇭
  flag_for_syria\t🇸🇾
  flag_for_são_tomé_&_príncipe\t🇸🇹
  flag_for_taiwan\t🇹🇼
  flag_for_tajikistan\t🇹🇯
  flag_for_tanzania\t🇹🇿
  flag_for_thailand\t🇹🇭
  flag_for_timor__leste\t🇹🇱
  flag_for_togo\t🇹🇬
  flag_for_tokelau\t🇹🇰
  flag_for_tonga\t🇹🇴
  flag_for_trinidad_&_tobago\t🇹🇹
  flag_for_tristan_da_cunha\t🇹🇦
  flag_for_tunisia\t🇹🇳
  flag_for_turkey\t🇹🇷
  flag_for_turkmenistan\t🇹🇲
  flag_for_turks_&_caicos_islands\t🇹🇨
  flag_for_tuvalu\t🇹🇻
  flag_for_u.s._outlying_islands\t🇺🇲
  flag_for_u.s._virgin_islands\t🇻🇮
  flag_for_uganda\t🇺🇬
  flag_for_ukraine\t🇺🇦
  flag_for_united_arab_emirates\t🇦🇪
  flag_for_united_kingdom\t🇬🇧
  flag_for_united_states\t🇺🇸
  flag_for_uruguay\t🇺🇾
  flag_for_uzbekistan\t🇺🇿
  flag_for_vanuatu\t🇻🇺
  flag_for_vatican_city\t🇻🇦
  flag_for_venezuela\t🇻🇪
  flag_for_vietnam\t🇻🇳
  flag_for_wallis_&_futuna\t🇼🇫
  flag_for_western_sahara\t🇪🇭
  flag_for_yemen\t🇾🇪
  flag_for_zambia\t🇿🇲
  flag_for_zimbabwe\t🇿🇼
  flag_for_åland_islands\t🇦🇽
  golf\t⛳
  fleur__de__lis\t⚜
  muscle\t💪
  flushed\t😳
  frame_with_picture\t🖼
  fries\t🍟
  frog\t🐸
  hatched_chick\t🐥
  frowning\t😦
  fuelpump\t⛽
  full_moon_with_face\t🌝
  gem\t💎
  star2\t🌟
  golfer\t🏌
  mortar_board\t🎓
  grimacing\t😬
  smile_cat\t😸
  grinning\t😀
  grin\t😁
  heartpulse\t💗
  guardsman\t💂
  haircut\t💇
  hamster\t🐹
  raising_hand\t🙋
  headphones\t🎧
  hear_no_evil\t🙉
  cupid\t💘
  gift_heart\t💝
  heart\t❤
  exclamation\t❗
  heavy_exclamation_mark\t❗
  heavy_heart_exclamation_mark_ornament\t❣
  o\t⭕
  helm_symbol\t⎈
  helmet_with_white_cross\t⛑
  high_heel\t👠
  bullettrain_side\t🚄
  bullettrain_front\t🚅
  high_brightness\t🔆
  zap\t⚡
  hocho\t🔪
  knife\t🔪
  bee\t🐝
  traffic_light\t🚥
  racehorse\t🐎
  coffee\t☕
  hotsprings\t♨
  hourglass\t⌛
  hourglass_flowing_sand\t⏳
  house_buildings\t🏘
  100\t💯
  hushed\t😯
  ice_hockey_stick_and_puck\t🏒
  imp\t👿
  information_desk_person\t💁
  information_source\tℹ
  capital_abcd\t🔠
  abc\t🔤
  abcd\t🔡
  1234\t🔢
  symbols\t🔣
  izakaya_lantern\t🏮
  lantern\t🏮
  jack_o_lantern\t🎃
  dolls\t🎎
  japanese_goblin\t👺
  japanese_ogre\t👹
  beginner\t🔰
  zero\t0\uFE0F\u20E3
  one\t1\uFE0F\u20E3
  ten\t🔟
  two\t2\uFE0F\u20E3
  three\t3\uFE0F\u20E3
  four\t4\uFE0F\u20E3
  five\t5\uFE0F\u20E3
  six\t6\uFE0F\u20E3
  seven\t7\uFE0F\u20E3
  eight\t8\uFE0F\u20E3
  nine\t9\uFE0F\u20E3
  couplekiss\t💏
  kissing_cat\t😽
  kissing\t😗
  kissing_closed_eyes\t😚
  kissing_smiling_eyes\t😙
  beetle\t🐞
  large_blue_circle\t🔵
  last_quarter_moon_with_face\t🌜
  leaves\t🍃
  mag\t🔍
  left_right_arrow\t↔
  leftwards_arrow_with_hook\t↩
  arrow_left\t⬅
  lock\t🔒
  lock_with_ink_pen\t🔏
  sob\t😭
  low_brightness\t🔅
  lower_left_ballpoint_pen\t🖊
  lower_left_crayon\t🖍
  lower_left_fountain_pen\t🖋
  lower_left_paintbrush\t🖌
  mahjong\t🀄
  couple\t👫
  man_in_business_suit_levitating\t🕴
  man_with_gua_pi_mao\t👲
  man_with_turban\t👳
  mans_shoe\t👞
  shoe\t👞
  menorah_with_nine_branches\t🕎
  mens\t🚹
  minidisc\t💽
  iphone\t📱
  calling\t📲
  money__mouth_face\t🤑
  moneybag\t💰
  rice_scene\t🎑
  mountain_bicyclist\t🚵
  mouse2\t🐁
  lips\t👄
  moyai\t🗿
  notes\t🎶
  nail_care\t💅
  ab\t🆎
  negative_squared_cross_mark\t❎
  a\t🅰
  b\t🅱
  o2\t🅾
  parking\t🅿
  new_moon_with_face\t🌚
  no_entry_sign\t🚫
  underage\t🔞
  non__potable_water\t🚱
  arrow_upper_right\t↗
  arrow_upper_left\t↖
  office\t🏢
  older_man\t👴
  older_woman\t👵
  om_symbol\t🕉
  on\t🔛
  book\t📖
  unlock\t🔓
  mailbox_with_no_mail\t📭
  mailbox_with_mail\t📬
  cd\t💿
  tada\t🎉
  feet\t🐾
  walking\t🚶
  pencil2\t✏
  pensive\t😔
  persevere\t😣
  bow\t🙇
  raised_hands\t🙌
  person_with_ball\t⛹
  person_with_blond_hair\t👱
  pray\t🙏
  person_with_pouting_face\t🙎
  computer\t💻
  pig2\t🐖
  hankey\t💩
  poop\t💩
  shit\t💩
  bamboo\t🎍
  gun\t🔫
  black_joker\t🃏
  rotating_light\t🚨
  cop\t👮
  stew\t🍲
  pouch\t👝
  pouting_cat\t😾
  rage\t😡
  put_litter_in_its_place\t🚮
  rabbit2\t🐇
  racing_motorcycle\t🏍
  radioactive_sign\t☢
  fist\t✊
  hand\t✋
  raised_hand_with_fingers_splayed\t🖐
  raised_hand_with_part_between_middle_and_ring_fingers\t🖖
  blue_car\t🚙
  apple\t🍎
  relieved\t😌
  reversed_hand_with_middle_finger_extended\t🖕
  mag_right\t🔎
  arrow_right_hook\t↪
  sweet_potato\t🍠
  robot\t🤖
  rolled__up_newspaper\t🗞
  rowboat\t🚣
  runner\t🏃
  running\t🏃
  running_shirt_with_sash\t🎽
  boat\t⛵
  scales\t⚖
  school_satchel\t🎒
  scorpius\t♏
  see_no_evil\t🙈
  sheep\t🐑
  stars\t🌠
  cake\t🍰
  six_pointed_star\t🔯
  ski\t🎿
  sleeping_accommodation\t🛌
  sleeping\t😴
  sleepy\t😪
  sleuth_or_spy\t🕵
  heart_eyes_cat\t😻
  smiley_cat\t😺
  innocent\t😇
  heart_eyes\t😍
  smiling_imp\t😈
  smiley\t😃
  sweat_smile\t😅
  smile\t😄
  laughing\t😆
  satisfied\t😆
  blush\t😊
  smirk\t😏
  smoking\t🚬
  snow_capped_mountain\t🏔
  soccer\t⚽
  icecream\t🍦
  soon\t🔜
  arrow_lower_right\t↘
  arrow_lower_left\t↙
  speak_no_evil\t🙊
  speaker\t🔈
  mute\t🔇
  sound\t🔉
  loud_sound\t🔊
  speaking_head_in_silhouette\t🗣
  spiral_calendar_pad\t🗓
  spiral_note_pad\t🗒
  shell\t🐚
  sweat_drops\t💦
  u5272\t🈹
  u5408\t🈴
  u55b6\t🈺
  u6307\t🈯
  u6708\t🈷
  u6709\t🈶
  u6e80\t🈵
  u7121\t🈚
  u7533\t🈸
  u7981\t🈲
  u7a7a\t🈳
  cl\t🆑
  cool\t🆒
  free\t🆓
  id\t🆔
  koko\t🈁
  sa\t🈂
  new\t🆕
  ng\t🆖
  ok\t🆗
  sos\t🆘
  up\t🆙
  vs\t🆚
  steam_locomotive\t🚂
  ramen\t🍜
  partly_sunny\t⛅
  city_sunrise\t🌇
  surfer\t🏄
  swimmer\t🏊
  shirt\t👕
  tshirt\t👕
  table_tennis_paddle_and_ball\t🏓
  tea\t🍵
  tv\t📺
  three_button_mouse\t🖱
  +1\t👍
  thumbsup\t👍
  __1\t👎
  -1\t👎
  thumbsdown\t👎
  thunder_cloud_and_rain\t⛈
  tiger2\t🐅
  tophat\t🎩
  top\t🔝
  tm\t™
  train2\t🚆
  triangular_flag_on_post\t🚩
  trident\t🔱
  twisted_rightwards_arrows\t🔀
  unamused\t😒
  small_red_triangle\t🔺
  arrow_up_small\t🔼
  arrow_up_down\t↕
  upside__down_face\t🙃
  arrow_up\t⬆
  v\t✌
  vhs\t📼
  wc\t🚾
  ocean\t🌊
  waving_black_flag\t🏴
  wave\t👋
  waving_white_flag\t🏳
  moon\t🌔
  scream_cat\t🙀
  weary\t😩
  weight_lifter\t🏋
  whale2\t🐋
  wheelchair\t♿
  point_down\t👇
  grey_exclamation\t❕
  white_frowning_face\t☹
  white_check_mark\t✅
  point_left\t👈
  white_medium_small_square\t◽
  star\t⭐
  grey_question\t❔
  point_right\t👉
  relaxed\t☺
  white_sun_behind_cloud\t🌥
  white_sun_behind_cloud_with_rain\t🌦
  white_sun_with_small_cloud\t🌤
  point_up_2\t👆
  point_up\t☝
  wind_blowing_face\t🌬
  wink\t😉
  wolf\t🐺
  dancers\t👯
  boot\t👢
  womans_clothes\t👚
  womans_hat\t👒
  sandal\t👡
  womens\t🚺
  worried\t😟
  gift\t🎁
  zipper__mouth_face\t🤐
  regional_indicator_a\t🇦
  regional_indicator_b\t🇧
  regional_indicator_c\t🇨
  regional_indicator_d\t🇩
  regional_indicator_e\t🇪
  regional_indicator_f\t🇫
  regional_indicator_g\t🇬
  regional_indicator_h\t🇭
  regional_indicator_i\t🇮
  regional_indicator_j\t🇯
  regional_indicator_k\t🇰
  regional_indicator_l\t🇱
  regional_indicator_m\t🇲
  regional_indicator_n\t🇳
  regional_indicator_o\t🇴
  regional_indicator_p\t🇵
  regional_indicator_q\t🇶
  regional_indicator_r\t🇷
  regional_indicator_s\t🇸
  regional_indicator_t\t🇹
  regional_indicator_u\t🇺
  regional_indicator_v\t🇻
  regional_indicator_w\t🇼
  regional_indicator_x\t🇽
  regional_indicator_y\t🇾
  regional_indicator_z\t🇿"

end GinSave.Console
